import Mathlib.Data.Fintype.Option
import NetworkInterface.Monitor.Freshness
import NetworkInterface.Support.Publication

/-!
# Monitor — Polling

The enumerations of the Unix delegate.  A client enumerates in `waitForFirstEnumeration` when
`_enumeratedOnce` is not set, the polling thread once a second; either reads the list of interfaces
the system has, and commits it to the table in a step of its own.

`_enumeratedOnce` is tested and set without a lock, so two lists can be on their way.  As long as
none is read while another one is, the lists are committed in the order in which they were read
(`neverGoesBack_of_reaches`); once one is, an older one can come last (`exists_goesBack`).
-/

namespace NetworkInterface

open Support Runs Publication

namespace Polling

/-! ### The threads -/

/-- What a client does next. -/
inductive Position (O : Type*) where
  /-- It is in no call. -/
  | outside
  /-- `if (!_enumeratedOnce)`. -/
  | testing (call : ApiCall O)
  /-- `refreshInterfaces(newList)`. -/
  | refreshing (call : ApiCall O)
  /-- `_commonDelegate.onNewInterfacesList(std::move(newList))`. -/
  | committing (call : ApiCall O) (newList : Reading Interfaces)
  /-- `_enumeratedOnce = true`. -/
  | setEnumerated (call : ApiCall O)
  /-- The part under the lock. -/
  | body (call : ApiCall O)
  /-- `_shouldTerminate = false`. -/
  | clearTerminate
  /-- `_observerThread = std::thread(…)`. -/
  | createThread
  /-- `_shouldTerminate = true`. -/
  | setTerminate
  /-- `if (_observerThread.joinable())`. -/
  | joinable
  /-- `_observerThread.join()`. -/
  | join
  /-- `_observerThread = {}`. -/
  | resetThread
  /-- `_enumeratedOnce = false`. -/
  | clearEnumerated

/-- What a joinable `_observerThread` does next. -/
inductive Phase where
  /-- `while (!_shouldTerminate)`. -/
  | checking
  /-- `refreshInterfaces(newList)`. -/
  | refreshing
  /-- `_commonDelegate.onNewInterfacesList(std::move(newList))`. -/
  | committing (newList : Reading Interfaces)
  /-- The thread has left its function. -/
  | ended

/-- The list on its way. -/
def Position.newList {O : Type*} : Position O → Option (Reading Interfaces)
  | .committing _ newList => some newList
  | .outside | .testing _ | .refreshing _ | .setEnumerated _ | .body _ | .clearTerminate
  | .createThread | .setTerminate | .joinable | .join | .resetThread | .clearEnumerated => none

/-- The client is about to read. -/
def Position.isRefreshing {O : Type*} : Position O → Bool
  | .refreshing _ => true
  | .outside | .testing _ | .committing .. | .setEnumerated _ | .body _ | .clearTerminate
  | .createThread | .setTerminate | .joinable | .join | .resetThread | .clearEnumerated => false

/-- The list on its way. -/
def Phase.newList : Phase → Option (Reading Interfaces)
  | .committing newList              => some newList
  | .checking | .refreshing | .ended => none

/-- The thread is about to read. -/
def Phase.isRefreshing : Phase → Bool
  | .refreshing                        => true
  | .checking | .committing _ | .ended => false

end Polling

/-- The helper, the members of `OsDependentDelegate_Unix`, its clients `T`, and the system. -/
structure Polling (T O : Type*) where
  helper : Helper O := {}
  shouldTerminate : Bool := false
  enumeratedOnce : Bool := false
  /-- `none` when it is not joinable. -/
  observerThread : Option Polling.Phase := none
  position : T → Polling.Position O := fun _ => .outside
  aborted : Bool := false
  /-- The interfaces the system has. -/
  system : Interfaces := ∅
  /-- The lists the system had before, and how often its list was read. -/
  earlier : List Interfaces := []
  readings : Nat := 0
  /-- The lists committed so far. -/
  commits : List (Reading Interfaces) := []

namespace Polling

/-- A step. -/
inductive Event (T O : Type*) where
  | systemChanges (interfaces : Interfaces)
  | call (t : T) (call : ApiCall O)
  | advance (t : T)
  /-- The observer thread goes on; `due` is whether the next check is due, where it is asked. -/
  | observe (due : Bool)

section
variable {T O : Type*}

/-- Where a call begins. -/
def begin (call : ApiCall O) : Position O := if call.waits then .testing call else .body call

/-- Where a call goes on after the part under the lock. -/
def afterBody : Option Decision → Position O
  | some .onFirstObserverRegistered  => .clearTerminate
  | some .onLastObserverUnregistered => .setTerminate
  | none                             => .outside

/-- What `refreshInterfaces` reads. -/
def reading (s : Polling T O) : Reading Interfaces := ⟨s.readings, s.earlier.length, s.system⟩

/-- `onNewInterfacesList`. -/
def commit [DecidableEq O] (s : Polling T O) (newList : Reading Interfaces) : Polling T O :=
  { s with
    helper := s.helper.onNewInterfacesList newList.value
    commits := s.commits ++ [newList] }

/-- `std::terminate`. -/
def abort (s : Polling T O) : Polling T O := { s with aborted := true }

/-- The client goes to another position. -/
def moves [DecidableEq T] (s : Polling T O) (t : T) (position : Position O) : Polling T O :=
  { s with position := Function.update s.position t position }

/-- A client goes on.  The process aborts when a joinable thread is assigned to, or a thread that is
not joinable is joined. -/
def advance [DecidableEq T] [DecidableEq O] (s : Polling T O) (t : T) : Option (Polling T O) :=
  match s.position t with
  | .outside                 => none
  | .testing call            => some
      (s.moves t (if s.enumeratedOnce then .body call else .refreshing call))
  | .refreshing call         => some
      { s.moves t (.committing call s.reading) with readings := s.readings + 1 }
  | .committing call newList => some ((s.moves t (.setEnumerated call)).commit newList)
  | .setEnumerated call      => some { s.moves t (.body call) with enumeratedOnce := true }
  | .body call               => some
      { s.moves t (afterBody (call.body s.helper).2) with helper := (call.body s.helper).1 }
  | .clearTerminate          => some { s.moves t .createThread with shouldTerminate := false }
  | .createThread            =>
      if s.observerThread.isSome then some s.abort
      else some { s.moves t .outside with observerThread := some .checking }
  | .setTerminate            => some { s.moves t .joinable with shouldTerminate := true }
  | .joinable                => some
      (s.moves t (if s.observerThread.isSome then .join else .outside))
  | .join                    =>
      match s.observerThread with
      | some .ended => some { s.moves t .resetThread with observerThread := none }
      | some _      => none
      | none        => some s.abort
  | .resetThread             =>
      if s.observerThread.isSome then some s.abort else some (s.moves t .clearEnumerated)
  | .clearEnumerated         => some { s.moves t .outside with enumeratedOnce := false }

/-- The observer thread goes on. -/
def observe [DecidableEq O] (s : Polling T O) (due : Bool) : Option (Polling T O) :=
  match s.observerThread with
  | some .checking             => some
      { s with
        observerThread := some
          (if s.shouldTerminate then .ended else if due then .refreshing else .checking) }
  | some .refreshing           => some
      { s with observerThread := some (.committing s.reading), readings := s.readings + 1 }
  | some (.committing newList) => some ({ s with observerThread := some .checking }.commit newList)
  | some .ended | none         => none

/-- The steps. -/
def next [DecidableEq T] [DecidableEq O] (s : Polling T O) (event : Event T O) :
    Option (Polling T O) :=
  if s.aborted then none
  else
    match event with
    | .systemChanges interfaces => some
        { s with system := interfaces, earlier := s.earlier ++ [s.system] }
    | .call t call              =>
        match s.position t with
        | .outside => some (s.moves t (begin call))
        | _        => none
    | .advance t                => s.advance t
    | .observe due              => s.observe due

/-! ### The lists on their way -/

/-- The list a client, or the observer thread (`none`), has read and not committed yet. -/
def held (s : Polling T O) : Option T → Option (Reading Interfaces)
  | some t => (s.position t).newList
  | none   => s.observerThread.bind Phase.newList

/-- The step reads the list of the system. -/
def reads (s : Polling T O) : Event T O → Bool
  | .advance t                  => (s.position t).isRefreshing
  | .observe _                  => s.observerThread.any Phase.isRefreshing
  | .systemChanges _ | .call .. => false

/-- No list is read while another one is on its way. -/
def OneAtATime (s : Polling T O) (event : Event T O) : Prop :=
  s.reads event = true → ∀ party, s.held party = none

/-- The list committed last. -/
def latest (commits : List (Reading Interfaces)) : Interfaces :=
  (commits.getLast?.map Reading.value).getD ∅

/-- The lists are committed in the order in which they were read, each as the system had it, and
the table is the last one. -/
structure NeverGoesBack (s : Polling T O) : Prop where
  reads : s.commits.Pairwise fun older newer => older.number < newer.number
  states : s.commits.Pairwise fun older newer => older.version ≤ newer.version
  had : ∀ newList ∈ s.commits, (s.earlier ++ [s.system])[newList.version]? = some newList.value
  table : s.helper.networkInterfaces = latest s.commits

/-- What the threads read and commit. -/
def board (s : Polling T O) : Board (Option T) Interfaces where
  value := s.system
  earlier := s.earlier
  readings := s.readings
  held := s.held
  published := s.commits

/-! ### What a step does -/

variable [DecidableEq T]

theorem held_moves (s : Polling T O) (t : T) (position : Position O) :
    (s.moves t position).held = Function.update s.held (some t) position.newList := by
  funext party
  cases party with
  | none => rw [Function.update_of_ne (Option.some_ne_none t).symm]; rfl
  | some t' =>
      change (Function.update s.position t position t').newList = _
      by_cases ht : t' = t
      · rw [ht, Function.update_self, Function.update_self]
      · rw [Function.update_of_ne ht, Function.update_of_ne fun hc => ht (Option.some.inj hc)]
        rfl

theorem held_thread (s : Polling T O) (observerThread : Option Phase) :
    held { s with observerThread := observerThread } =
      Function.update s.held none (observerThread.bind Phase.newList) := by
  funext party
  cases party with
  | none => rw [Function.update_self]; rfl
  | some t => rw [Function.update_of_ne (Option.some_ne_none t)]; rfl

/-- What a thread that reads shows. -/
def afterRead (s : Polling T O) (party : Option T) : Board (Option T) Interfaces :=
  { s.board with
    readings := s.readings + 1
    held := Function.update s.held party (some s.reading) }

/-- What a thread that commits shows. -/
def afterCommit (s : Polling T O) (party : Option T) (newList : Reading Interfaces) :
    Board (Option T) Interfaces :=
  { s.board with
    held := Function.update s.held party none
    published := s.commits ++ [newList] }

/-- What a step does to the lists and to the table. -/
inductive Effect (s : Polling T O) (event : Event T O) (s' : Polling T O) : Prop where
  | change (interfaces : Interfaces)
      (board : s'.board = { s.board with value := interfaces, earlier := s.board.values })
      (table : s'.helper.networkInterfaces = s.helper.networkInterfaces)
  | read (party : Option T) (reads : s.reads event = true) (free : s.held party = none)
      (board : s'.board = s.afterRead party)
      (table : s'.helper.networkInterfaces = s.helper.networkInterfaces)
  | commit (party : Option T) (newList : Reading Interfaces) (held : s.held party = some newList)
      (board : s'.board = s.afterCommit party newList)
      (table : s'.helper.networkInterfaces = newList.value)
  | quiet (board : s'.board = s.board)
      (table : s'.helper.networkInterfaces = s.helper.networkInterfaces)

/-- A client moves, and its list is the one it had, if any. -/
theorem board_moves (s : Polling T O) {t : T} {position : Position O}
    (h : (s.position t).newList = position.newList) : (s.moves t position).board = s.board := by
  have same : (s.moves t position).held = s.held := by
    rw [held_moves, ← h]
    exact Function.update_eq_self (some t) s.held
  rw [board, same]
  rfl

/-- The observer thread goes on, or is another one, and its list is the one it had, if any. -/
theorem board_thread (s : Polling T O) {observerThread : Option Phase}
    (h : s.observerThread.bind Phase.newList = observerThread.bind Phase.newList) :
    board { s with observerThread := observerThread } = s.board := by
  have same : held { s with observerThread := observerThread } = s.held := by
    rw [held_thread, ← h]
    exact Function.update_eq_self none s.held
  rw [board, same]
  rfl

theorem board_read_client (s : Polling T O) (t : T) (call : ApiCall O) :
    board { s.moves t (.committing call s.reading) with readings := s.readings + 1 } =
      s.afterRead (some t) :=
  congrArg (fun lists => { s.board with readings := s.readings + 1, held := lists })
    (held_moves s t (.committing call s.reading))

theorem board_read_thread (s : Polling T O) :
    board { s with observerThread := some (.committing s.reading), readings := s.readings + 1 } =
      s.afterRead none :=
  congrArg (fun lists => { s.board with readings := s.readings + 1, held := lists })
    (held_thread s (some (.committing s.reading)))

theorem newList_begin (call : ApiCall O) : (begin call).newList = none := by
  rw [begin]
  split
  · rfl
  · rfl

theorem newList_afterBody (decision : Option Decision) :
    (afterBody decision : Position O).newList = none := by
  cases decision with
  | none => rfl
  | some decision => cases decision <;> rfl

theorem Position.exists_refreshing {position : Position O} (h : position.isRefreshing = true) :
    ∃ call, position = .refreshing call := by
  cases position with
  | refreshing call => exact ⟨call, rfl⟩
  | outside | testing | committing | setEnumerated | body | clearTerminate | createThread
  | setTerminate | joinable | join | resetThread | clearEnumerated => cases h

theorem Position.exists_committing {position : Position O} {newList : Reading Interfaces}
    (h : position.newList = some newList) : ∃ call, position = .committing call newList := by
  cases position with
  | committing call newList' => exact ⟨call, by rw [Option.some.inj h]⟩
  | outside | testing | refreshing | setEnumerated | body | clearTerminate | createThread
  | setTerminate | joinable | join | resetThread | clearEnumerated => cases h

theorem Phase.eq_refreshing {phase : Phase} (h : phase.isRefreshing = true) :
    phase = .refreshing := by
  cases phase with
  | refreshing => rfl
  | checking | committing | ended => cases h

theorem Phase.eq_committing {phase : Phase} {newList : Reading Interfaces}
    (h : phase.newList = some newList) : phase = .committing newList := by
  cases phase with
  | committing newList' => rw [Option.some.inj h]
  | checking | refreshing | ended => cases h

variable [DecidableEq O]

theorem board_commit_client (s : Polling T O) (t : T) (call : ApiCall O)
    (newList : Reading Interfaces) :
    ((s.moves t (.setEnumerated call)).commit newList).board = s.afterCommit (some t) newList :=
  congrArg (fun lists => { s.board with held := lists, published := s.commits ++ [newList] })
    (held_moves s t (.setEnumerated call))

theorem board_commit_thread (s : Polling T O) (newList : Reading Interfaces) :
    (commit { s with observerThread := some .checking } newList).board =
      s.afterCommit none newList :=
  congrArg (fun lists => { s.board with held := lists, published := s.commits ++ [newList] })
    (held_thread s (some .checking))

theorem networkInterfaces_body (helper : Helper O) (call : ApiCall O) :
    (call.body helper).1.networkInterfaces = helper.networkInterfaces := by
  cases call with
  | enumerateInterfaces | getInterfaceByName => rfl
  | registerObserver observer =>
      cases observer with
      | none => rfl
      | some observer =>
          by_cases hmem : observer ∈ helper.observers
          · rw [ApiCall.body, Helper.registerObserver_of_mem hmem]
          · rw [ApiCall.body, Helper.registerObserver_of_notMem hmem]
  | unregisterObserver observer =>
      cases observer with
      | none => rfl
      | some observer =>
          by_cases hmem : observer ∈ helper.observers
          · rw [ApiCall.body, Helper.unregisterObserver_of_mem hmem]
          · rw [ApiCall.body, Helper.unregisterObserver_of_notMem hmem]

theorem advance_refreshing {s : Polling T O} {t : T} {call : ApiCall O}
    (h : s.position t = .refreshing call) :
    s.advance t = some
      { s.moves t (.committing call s.reading) with readings := s.readings + 1 } := by
  rw [advance, h]

theorem advance_committing {s : Polling T O} {t : T} {call : ApiCall O}
    {newList : Reading Interfaces} (h : s.position t = .committing call newList) :
    s.advance t = some ((s.moves t (.setEnumerated call)).commit newList) := by
  rw [advance, h]

omit [DecidableEq T] in
theorem observe_refreshing {s : Polling T O} (due : Bool)
    (h : s.observerThread = some .refreshing) :
    s.observe due = some
      { s with
        observerThread := some (.committing s.reading), readings := s.readings + 1 } := by
  rw [observe, h]

omit [DecidableEq T] in
theorem observe_committing {s : Polling T O} (due : Bool) {newList : Reading Interfaces}
    (h : s.observerThread = some (.committing newList)) :
    s.observe due = some (commit { s with observerThread := some .checking } newList) := by
  rw [observe, h]

/-- What one step of a client does. -/
theorem effect_of_advance {s s' : Polling T O} {t : T} (h : s.advance t = some s') :
    Effect s (.advance t) s' := by
  -- between two positions that hold no list, the board is the same
  have free (hposition : (s.position t).newList = none) {position : Position O}
      (hnew : position.newList = none) : (s.moves t position).board = s.board :=
    board_moves s (hposition.trans hnew.symm)
  cases hposition : s.position t with
  | outside =>
      rw [advance, hposition] at h
      cases h
  | testing call =>
      rw [advance, hposition] at h
      rw [hposition] at free
      obtain rfl := Option.some.inj h
      refine .quiet (free rfl ?_) rfl
      split
      · rfl
      · rfl
  | refreshing call =>
      obtain rfl := Option.some.inj ((advance_refreshing hposition).symm.trans h)
      refine .read (some t) ?_ ?_ ?_ rfl
      · rw [reads, hposition]
        rfl
      · rw [held, hposition]
        rfl
      · exact board_read_client s t call
  | committing call newList =>
      obtain rfl := Option.some.inj ((advance_committing hposition).symm.trans h)
      refine .commit (some t) newList ?_ ?_ rfl
      · rw [held, hposition]
        rfl
      · exact board_commit_client s t call newList
  | setEnumerated call =>
      rw [advance, hposition] at h
      rw [hposition] at free
      obtain rfl := Option.some.inj h
      exact .quiet (free rfl rfl) rfl
  | body call =>
      rw [advance, hposition] at h
      rw [hposition] at free
      obtain rfl := Option.some.inj h
      exact .quiet (free rfl (newList_afterBody _)) (networkInterfaces_body s.helper call)
  | clearTerminate =>
      rw [advance, hposition] at h
      rw [hposition] at free
      obtain rfl := Option.some.inj h
      exact .quiet (free rfl rfl) rfl
  | createThread =>
      rw [advance, hposition] at h
      rw [hposition] at free
      dsimp only at h
      by_cases hjoinable : s.observerThread.isSome = true
      · rw [if_pos hjoinable] at h
        obtain rfl := Option.some.inj h
        exact .quiet rfl rfl
      · rw [if_neg hjoinable] at h
        obtain rfl := Option.some.inj h
        -- there was no thread, and the new one has read nothing yet
        have stopped : s.observerThread = none := Option.not_isSome_iff_eq_none.mp hjoinable
        refine .quiet ((board_thread (s.moves t .outside) ?_).trans (free rfl rfl)) rfl
        change s.observerThread.bind Phase.newList = none
        rw [stopped]
        rfl
  | setTerminate =>
      rw [advance, hposition] at h
      rw [hposition] at free
      obtain rfl := Option.some.inj h
      exact .quiet (free rfl rfl) rfl
  | joinable =>
      rw [advance, hposition] at h
      rw [hposition] at free
      obtain rfl := Option.some.inj h
      refine .quiet (free rfl ?_) rfl
      split
      · rfl
      · rfl
  | join =>
      rw [advance, hposition] at h
      rw [hposition] at free
      dsimp only at h
      split at h
      · -- a thread that has left its loop holds no list
        rename_i hended
        obtain rfl := Option.some.inj h
        refine .quiet ((board_thread (s.moves t .resetThread) ?_).trans (free rfl rfl)) rfl
        change s.observerThread.bind Phase.newList = none
        rw [hended]
        rfl
      · cases h
      · obtain rfl := Option.some.inj h
        exact .quiet rfl rfl
  | resetThread =>
      rw [advance, hposition] at h
      rw [hposition] at free
      dsimp only at h
      by_cases hjoinable : s.observerThread.isSome = true
      · rw [if_pos hjoinable] at h
        obtain rfl := Option.some.inj h
        exact .quiet rfl rfl
      · rw [if_neg hjoinable] at h
        obtain rfl := Option.some.inj h
        exact .quiet (free rfl rfl) rfl
  | clearEnumerated =>
      rw [advance, hposition] at h
      rw [hposition] at free
      obtain rfl := Option.some.inj h
      exact .quiet (free rfl rfl) rfl

/-- What one step of the observer thread does. -/
theorem effect_of_observe {s s' : Polling T O} {due : Bool} (h : s.observe due = some s') :
    Effect s (.observe due) s' := by
  cases hthread : s.observerThread with
  | none =>
      rw [observe, hthread] at h
      cases h
  | some phase =>
      cases phase with
      | checking =>
          rw [observe, hthread] at h
          obtain rfl := Option.some.inj h
          refine .quiet (board_thread s ?_) rfl
          rw [hthread]
          split
          · rfl
          · split
            · rfl
            · rfl
      | refreshing =>
          obtain rfl := Option.some.inj ((observe_refreshing due hthread).symm.trans h)
          refine .read none ?_ ?_ ?_ rfl
          · rw [reads, hthread]
            rfl
          · rw [held, hthread]
            rfl
          · exact board_read_thread s
      | committing newList =>
          obtain rfl := Option.some.inj ((observe_committing due hthread).symm.trans h)
          refine .commit none newList ?_ ?_ rfl
          · rw [held, hthread]
            rfl
          · exact board_commit_thread s newList
      | ended =>
          rw [observe, hthread] at h
          cases h

/-- **What one step does**. -/
theorem effect_of_next {s s' : Polling T O} {event : Event T O} (h : Steps next s event s') :
    Effect s event s' := by
  obtain ⟨-, hnext⟩ := Option.ite_none_left_eq_some.mp h
  cases event with
  | systemChanges interfaces =>
      obtain ⟨⟩ := hnext
      exact .change interfaces rfl rfl
  | call t call =>
      dsimp only at hnext
      split at hnext
      · rename_i hposition
        obtain rfl := Option.some.inj hnext
        refine .quiet (board_moves s ?_) rfl
        rw [hposition, newList_begin]
        rfl
      · cases hnext
  | advance t => exact effect_of_advance hnext
  | observe due => exact effect_of_observe hnext

/-! ### The board -/

/-- **What the threads do to the board**: nothing, or one of its steps. -/
theorem board_next {s s' : Polling T O} {event : Event T O} (h : Steps next s event s') :
    s'.board = s.board ∨ ∃ act, Steps Board.next s.board act s'.board ∧
      (s.OneAtATime event → Board.Alone s.board act) := by
  cases effect_of_next h with
  | change interfaces board table =>
      exact .inr ⟨.change interfaces, (congrArg some board).symm, fun _ => trivial⟩
  | read party reads free board table =>
      refine .inr ⟨.read party, ?_, fun hok => hok reads⟩
      have able : (s.board.held party).isNone = true := Option.isNone_iff_eq_none.mpr free
      exact (if_pos able).trans (congrArg some board).symm
  | commit party newList held board table =>
      refine .inr ⟨.publish party, ?_, fun _ => trivial⟩
      exact Option.map_eq_some_iff.mpr ⟨newList, held, board.symm⟩
  | quiet board table => exact .inl board

omit [DecidableEq T] [DecidableEq O] in
theorem board_start (system : Interfaces) :
    board ({ system := system } : Polling T O) = { value := system } := by
  have nothing : held ({ system := system } : Polling T O) = fun _ => none := by
    funext party
    cases party <;> rfl
  rw [board, nothing]

theorem sound_board {system : Interfaces} {s : Polling T O}
    (h : Reaches (Steps next) { system := system } s) : s.board.Sound := by
  have step : ∀ (a : Polling T O) event b, a.board.Sound → Steps next a event b →
      b.board.Sound := by
    intro a event b ha hab
    rcases board_next hab with hsame | ⟨act, hact, -⟩
    · rw [hsame]
      exact ha
    · exact ha.next hact
  have start : (board ({ system := system } : Polling T O)).Sound := by
    rw [board_start]
    exact Board.sound_start system
  have sound := h.invariant step start
  exact sound

/-- The table is the list committed last. -/
theorem table_next {s s' : Polling T O} {event : Event T O}
    (h : s.helper.networkInterfaces = latest s.commits) (hstep : Steps next s event s') :
    s'.helper.networkInterfaces = latest s'.commits := by
  cases effect_of_next hstep with
  | change interfaces board table =>
      rw [table, h, show s'.commits = s.commits from congrArg Board.published board]
  | read party reads free board table =>
      rw [table, h, show s'.commits = s.commits from congrArg Board.published board]
  | commit party newList held board table =>
      rw [table, show s'.commits = s.commits ++ [newList] from congrArg Board.published board,
        latest, List.getLast?_concat]
      rfl
  | quiet board table =>
      rw [table, h, show s'.commits = s.commits from congrArg Board.published board]

/-! ### Runs -/

/-- **The table never goes back**: in every run that reads no list while another one is on its way,
the lists are committed in the order in which they were read. -/
theorem neverGoesBack_of_reaches {system : Interfaces} {s : Polling T O}
    (h : Reaches (Meeting OneAtATime (Steps next)) { system := system } s) : s.NeverGoesBack := by
  have step : ∀ (a : Polling T O) event b, Meeting OneAtATime (Steps next) a event b →
      b.board = a.board ∨ ∃ act, Meeting Board.Alone (Steps Board.next) a.board act b.board := by
    intro a event b hab
    rcases board_next hab.2 with hsame | ⟨act, hact, halone⟩
    · exact .inl hsame
    · exact .inr ⟨act, halone hab.1, hact⟩
  have simulated := h.simulates step
  rw [board_start] at simulated
  obtain ⟨sound, inOrder, -, -⟩ := Board.newest_of_reaches simulated
  have committed : ∀ (a : Polling T O) event b, a.helper.networkInterfaces = latest a.commits →
      Meeting OneAtATime (Steps next) a event b → b.helper.networkInterfaces = latest b.commits :=
    fun _ _ _ ha hab => table_next ha hab.2
  have table := h.invariant committed rfl
  exact ⟨inOrder.numbers, inOrder.versions,
    fun newList hmem => (sound.published newList hmem).value, table⟩

instance decidableOneAtATime [Fintype T] (s : Polling T O) (event : Event T O) :
    Decidable (OneAtATime s event) :=
  inferInstanceAs (Decidable (s.reads event = true → ∀ party, s.held party = none))

/-- A first observer registers: its call enumerates, and starts the thread, which enumerates. -/
def registers : List (Event Bool Unit) :=
  .call false (.registerObserver (some ())) :: List.replicate 7 (.advance false) ++
    List.replicate 3 (.observe true)

theorem neverGoesBack_of_reaches_registers :
    ∃ s, exec next ({ system := onlyEn0 0 } : Polling Bool Unit) registers = some s ∧
      s.NeverGoesBack := by
  have goes : (exec (guarded OneAtATime next) ({ system := onlyEn0 0 } : Polling Bool Unit)
      registers).isSome = true := by decide
  obtain ⟨s, hrun⟩ := Option.isSome_iff_exists.mp goes
  exact ⟨s, exec_of_guarded hrun, neverGoesBack_of_reaches (reaches_of_exec_guarded hrun)⟩

/-- Two clients enumerate at once: one reads before `en0` is there, the other one after, and the
first commits last. -/
def overlapping : List (Event Bool Unit) :=
  [.call false (.enumerateInterfaces true), .advance false, .advance false,
    .systemChanges (onlyEn0 0), .call true (.enumerateInterfaces true), .advance true,
    .advance true, .advance true, .advance false]

theorem not_neverGoesBack :
    ¬ ∀ (system : Interfaces) (s : Polling Bool Unit),
      Reaches (Steps next) { system := system } s → s.NeverGoesBack := by
  intro h
  obtain ⟨s, hrun, hcommits⟩ :
      ∃ s, exec next ({} : Polling Bool Unit) overlapping = some s ∧
        s.commits = [⟨1, 1, onlyEn0 0⟩, ⟨0, 0, ∅⟩] := ⟨_, rfl, rfl⟩
  have states := (h ∅ s (reaches_of_exec hrun)).states
  rw [hcommits] at states
  exact Nat.not_succ_le_zero 0 (List.rel_of_pairwise_cons states (List.mem_singleton_self _))

/-! ### Lists on their way together -/

theorem next_advance {s s' : Polling T O} {t : T} (hrun : s.aborted = false)
    (h : s.advance t = some s') : Steps next s (.advance t) s' := by
  rw [Steps, next, hrun]
  exact h

theorem next_observe {s s' : Polling T O} {due : Bool} (hrun : s.aborted = false)
    (h : s.observe due = some s') : Steps next s (.observe due) s' := by
  rw [Steps, next, hrun]
  exact h

/-- Who is about to read can read. -/
theorem exists_read {s : Polling T O} {event : Event T O} (hrun : s.aborted = false)
    (hreads : s.reads event = true) :
    ∃ party s', Steps next s event s' ∧ Steps Board.next s.board (.read party) s'.board ∧
      s'.aborted = false := by
  have shown {party : Option T} (hfree : s.held party = none) :
      Steps Board.next s.board (.read party) (s.afterRead party) :=
    if_pos (Option.isNone_iff_eq_none.mpr hfree)
  cases event with
  | systemChanges interfaces => cases hreads
  | call t call => cases hreads
  | advance t =>
      obtain ⟨call, hposition⟩ := Position.exists_refreshing hreads
      refine ⟨some t, _, next_advance hrun (advance_refreshing hposition), ?_, hrun⟩
      rw [board_read_client]
      refine shown ?_
      rw [held, hposition]
      rfl
  | observe due =>
      obtain ⟨phase, hthread, hphase⟩ := (Option.any_eq_true _ _).mp hreads
      obtain rfl := Phase.eq_refreshing hphase
      refine ⟨none, _, next_observe hrun (observe_refreshing due hthread), ?_, hrun⟩
      rw [board_read_thread]
      refine shown ?_
      rw [held, hthread]
      rfl

/-- Who has read can commit. -/
theorem exists_commit {s : Polling T O} {party : Option T} {newList : Reading Interfaces}
    (hrun : s.aborted = false) (hheld : s.held party = some newList) :
    ∃ event s', Steps next s event s' ∧ Steps Board.next s.board (.publish party) s'.board ∧
      s'.aborted = false := by
  have shown : Steps Board.next s.board (.publish party) (s.afterCommit party newList) :=
    Option.map_eq_some_iff.mpr ⟨newList, hheld, rfl⟩
  cases party with
  | some t =>
      obtain ⟨call, hposition⟩ := Position.exists_committing hheld
      refine ⟨.advance t, _, next_advance hrun (advance_committing hposition), ?_, hrun⟩
      rw [board_commit_client]
      exact shown
  | none =>
      obtain ⟨phase, hthread, hphase⟩ := Option.bind_eq_some_iff.mp hheld
      obtain rfl := Phase.eq_committing hphase
      refine ⟨.observe true, _, next_observe hrun (observe_committing true hthread), ?_, hrun⟩
      rw [board_commit_thread]
      exact shown

/-- **Lists on their way together**: once a list is read while another one is on its way, the table
can go back. -/
theorem exists_goesBack {system : Interfaces} {s : Polling T O} {event : Event T O}
    (h : Reaches (Steps next) { system := system } s) (hrun : s.aborted = false)
    (hok : ¬ s.OneAtATime event) : ∃ s', Reaches (Steps next) s s' ∧ ¬ s'.NeverGoesBack := by
  obtain ⟨hreads, hp⟩ := Classical.not_imp.mp hok
  obtain ⟨p, hp⟩ := not_forall.mp hp
  obtain ⟨newList, hheld⟩ := Option.ne_none_iff_exists'.mp hp
  obtain ⟨q, s₁, hnext₁, hread, hrun₁⟩ := exists_read hrun hreads
  have hne := Board.ne_of_read hheld hread
  have held₁ : s₁.held = _ := Board.held_read hread
  have hq : s₁.held q = some s.reading := by
    rw [held₁, Function.update_self]
    rfl
  obtain ⟨event₂, s₂, hnext₂, hfirst, hrun₂⟩ := exists_commit hrun₁ hq
  have held₂ : s₂.held = _ := Board.held_publish hfirst
  have hpAgain : s₂.held p = some newList := by
    rw [held₂, Function.update_of_ne hne]
    change s₁.held p = some newList
    rw [held₁, Function.update_of_ne hne]
    exact hheld
  obtain ⟨event₃, s₃, hnext₃, hsecond, -⟩ := exists_commit hrun₂ hpAgain
  refine ⟨s₃, ((Reaches.more .refl hnext₁).more hnext₂).more hnext₃, fun hback => ?_⟩
  exact Board.not_inOrder (sound_board h) hheld hread hfirst hsecond ⟨hback.reads, hback.states⟩

end

end Polling

end NetworkInterface
