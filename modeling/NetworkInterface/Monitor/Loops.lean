import NetworkInterface.Monitor.Blocking
import NetworkInterface.Monitor.Polling

/-!
# Monitor — Loops

The loops over `_networkInterfaces` and the calls their callbacks make, with a polling delegate.
`enumerateInterfaces`, `registerObserver` and `onNewInterfacesList` keep an iterator on the table
while they call back, and the lock is recursive: a callback whose `waitForFirstEnumeration` finds
`_enumeratedOnce` not set refreshes the list, and replaces the table under the loop.

- `stable_of_reaches`: where the last unregistration resets `_enumeratedOnce` only while nobody
  observes, loops or calls back, every loop keeps its table from its beginning to its end.
- `replaced_of_callback`: wherever a loop finds `_enumeratedOnce` not set, its next callback can
  replace its table by any other.
-/

namespace NetworkInterface

open Support Runs

/-- The call goes over the table, and calls back. -/
def ApiCall.loops {O : Type*} : ApiCall O → Bool
  | .enumerateInterfaces onInterface                  => onInterface
  | .registerObserver observer                        => observer.isSome
  | .getInterfaceByName _ | .unregisterObserver _     => false

namespace Blocking

/-! ### Frames -/

/-- A call that has passed its `waitForFirstEnumeration` goes over the table, or is about to. -/
def Frame.loops {O : Type*} : Frame O → Bool
  | .locking (.call call) | .working (.call call) _ => call.loops
  | .testing _ | .refreshing _ | .setEnumerated _ | .locking (.newList _) | .working (.newList _) _
  | .clearTerminate | .createThread | .setTerminate | .joinable | .join | .resetThread
  | .clearEnumerated | .checking | .polling         => false

/-- The frame replaces the table, or is about to. -/
def Frame.replaces {O : Type*} : Frame O → Bool
  | .refreshing _ | .locking (.newList _) | .working (.newList _) _ | .checking | .polling => true
  | .testing _ | .setEnumerated _ | .locking (.call _) | .working (.call _) _ | .clearTerminate
  | .createThread | .setTerminate | .joinable | .join | .resetThread | .clearEnumerated => false

/-- `_enumeratedOnce` is reset next. -/
def Frame.resets {O : Type*} : Frame O → Bool
  | .clearEnumerated => true
  | .testing _ | .refreshing _ | .setEnumerated _ | .locking _ | .working .. | .clearTerminate
  | .createThread | .setTerminate | .joinable | .join | .resetThread | .checking | .polling => false

section
variable {T O : Type*}

/-- No call of the thread goes over the table, and none is made in a callback. -/
structure Calm (frames : List (Frame O)) : Prop where
  loops : ∀ frame ∈ frames, frame.loops = false
  outside : depth frames.tail = 0

/-- The table is replaced by no call that is made in a callback. -/
def Outermost : List (Frame O) → Prop
  | []            => True
  | frame :: rest => (frame.replaces = true → depth rest = 0) ∧ Outermost rest

/-- Nobody observes, loops or calls back. -/
structure Idle (s : Blocking T O) : Prop where
  observers : s.helper.observers = ∅
  calm : ∀ party, Calm (s.frames party)

/-- `_enumeratedOnce` is reset while nobody observes, loops or calls back. -/
def Undisturbed (s : Blocking T O) : Event T O → Prop
  | .advance party _                            =>
      (s.frames party).head?.any Frame.resets = true → s.Idle
  | .systemChanges _ | .call .. | .callback .. => True

theorem calm_nil : Calm ([] : List (Frame O)) := ⟨nofun, rfl⟩

theorem Calm.rest {frame : Frame O} {rest : List (Frame O)} (h : Calm (frame :: rest)) :
    Calm rest where
  loops next hmem := h.loops next (List.mem_cons_of_mem frame hmem)
  outside := Nat.le_zero.mp ((List.tail_sublist rest).countP_le.trans h.outside.le)

theorem Calm.push {frame : Frame O} {rest : List (Frame O)} (h : Calm rest)
    (hloops : frame.loops = false) (hdepth : depth rest = 0) : Calm (frame :: rest) where
  loops next hmem := by
    rcases List.mem_cons.mp hmem with rfl | hmem
    · exact hloops
    · exact h.loops next hmem
  outside := hdepth

/-- The innermost frame gives way to another one. -/
theorem Calm.replace {frame frame' : Frame O} {rest : List (Frame O)} (h : Calm (frame :: rest))
    (hloops : frame'.loops = false) : Calm (frame' :: rest) :=
  h.rest.push hloops h.outside

theorem Outermost.push {frame : Frame O} {rest : List (Frame O)} (h : Outermost rest)
    (hreplaces : frame.replaces = false) : Outermost (frame :: rest) :=
  ⟨fun hc => absurd (hreplaces.symm.trans hc) Bool.false_ne_true, h⟩

theorem outermost_after (decision : Option Decision) {rest : List (Frame O)} (h : Outermost rest) :
    Outermost (after decision ++ rest) := by
  cases decision with
  | none => exact h
  | some decision =>
      cases decision with
      | onFirstObserverRegistered | onLastObserverUnregistered => exact h.push rfl

theorem calm_after (decision : Option Decision) {rest : List (Frame O)} (h : Calm rest)
    (hdepth : depth rest = 0) : Calm (after decision ++ rest) := by
  cases decision with
  | none => exact h
  | some decision =>
      cases decision with
      | onFirstObserverRegistered | onLastObserverUnregistered => exact h.push rfl hdepth

theorem outermost_begin (call : ApiCall O) {rest : List (Frame O)} (h : Outermost rest) :
    Outermost (begin call ++ rest) := by
  cases call with
  | enumerateInterfaces onInterface =>
      cases onInterface with
      | true => exact h.push rfl
      | false => exact h
  | getInterfaceByName | registerObserver | unregisterObserver => exact h.push rfl

theorem calm_begin (call : ApiCall O) : Calm (begin call) := by
  cases call with
  | enumerateInterfaces onInterface =>
      cases onInterface with
      | true => exact calm_nil.push rfl rfl
      | false => exact calm_nil
  | getInterfaceByName | registerObserver | unregisterObserver => exact calm_nil.push rfl rfl

end

section
variable {O : Type*} [DecidableEq O]

/-- A call that does not loop registers nobody. -/
theorem observers_body {helper : Helper O} {call : ApiCall O} (hloops : call.loops = false)
    (hempty : helper.observers = ∅) : (call.body helper).1.observers = ∅ := by
  cases call with
  | enumerateInterfaces | getInterfaceByName => exact hempty
  | registerObserver observer =>
      cases observer with
      | none => exact hempty
      | some observer => cases hloops
  | unregisterObserver observer =>
      cases observer with
      | none => exact hempty
      | some observer =>
          have absent : observer ∉ helper.observers := by
            rw [hempty]
            exact Finset.notMem_empty observer
          rw [ApiCall.body, Helper.unregisterObserver_of_notMem absent]
          exact hempty

omit [DecidableEq O] in
/-- Where nobody observes, what does not loop does not call back. -/
theorem not_callsBack {helper : Helper O} {work : Work O} {decision : Option Decision}
    (hempty : helper.observers = ∅) (hloops : (Frame.working work decision).loops = false) :
    work.callsBack helper = false := by
  cases work with
  | newList newList =>
      refine decide_eq_false fun hc => ?_
      rw [hempty] at hc
      exact Finset.not_nonempty_empty hc
  | call call =>
      cases call with
      | enumerateInterfaces onInterface =>
          change onInterface = false at hloops
          rw [Work.callsBack, hloops, Bool.false_and]
      | registerObserver observer =>
          change observer.isSome = false at hloops
          rw [Work.callsBack, hloops, Bool.false_and]
      | getInterfaceByName | unregisterObserver => rfl

end

/-! ### The invariant -/

section
variable {T O : Type*} [DecidableEq T] [DecidableEq O]

/-- As long as `_enumeratedOnce` is not set nobody observes, loops or calls back, and the table is
not replaced in a callback. -/
structure Tidy (s : Blocking T O) : Prop where
  locks : s.Locks
  idle : s.enumeratedOnce = false → s.Idle
  outermost : ∀ party, Outermost (s.frames party)

omit [DecidableEq O] in
/-- Some threads go on. -/
theorem Tidy.moves {s s' : Blocking T O} (h : s.Tidy) (locks : s'.Locks)
    (observers : s'.enumeratedOnce = false → s.Idle ∧ s'.helper.observers = ∅)
    (frames : ∀ q, s'.frames q = s.frames q ∨ Outermost (s'.frames q) ∧
      (s'.enumeratedOnce = false → Calm (s.frames q) → Calm (s'.frames q))) : s'.Tidy where
  locks := locks
  idle hcleared := by
    obtain ⟨idle, hempty⟩ := observers hcleared
    refine ⟨hempty, fun q => ?_⟩
    rcases frames q with hsame | ⟨-, hcalm⟩
    · rw [hsame]
      exact idle.calm q
    · exact hcalm hcleared (idle.calm q)
  outermost q := by
    rcases frames q with hsame | ⟨houtermost, -⟩
    · rw [hsame]
      exact h.outermost q
    · exact houtermost

omit [DecidableEq O] in
/-- One thread goes on. -/
theorem Tidy.goes {s s' : Blocking T O} (h : s.Tidy) (locks : s'.Locks) {party : Option T}
    {frames frames' : List (Frame O)} (hframes : s.frames party = frames)
    (goes : s'.frames = Function.update s.frames party frames') (outermost : Outermost frames')
    (observers : s'.enumeratedOnce = false → s.Idle ∧ s'.helper.observers = ∅)
    (calm : s'.enumeratedOnce = false → Calm frames → Calm frames') : s'.Tidy := by
  refine h.moves locks observers fun q => ?_
  by_cases hq : q = party
  · rw [hq, goes, Function.update_self, hframes]
    exact .inr ⟨outermost, calm⟩
  · rw [goes, Function.update_of_ne hq]
    exact .inl rfl

/-- A thread goes on. -/
theorem Tidy.run {s s' : Blocking T O} (h : s.Tidy) {party : Option T} {due : Bool}
    {frame : Frame O} {rest : List (Frame O)} (hframes : s.frames party = frame :: rest)
    (hresets : frame.resets = true → s.Idle) (hrun : s.run party due rest frame = some s') :
    s'.Tidy := by
  have locks : s'.Locks := h.locks.effect hframes (effect_of_run hrun)
  obtain ⟨hreplaces, hrest⟩ : Outermost (frame :: rest) := hframes ▸ h.outermost party
  -- what is left of the invariant where neither `_enumeratedOnce` nor the observers change
  have same (hcleared : s.enumeratedOnce = false) : s.Idle ∧ s.helper.observers = ∅ :=
    ⟨h.idle hcleared, (h.idle hcleared).observers⟩
  cases frame with
  | testing call =>
      obtain rfl := Option.some.inj hrun
      -- a refresh comes next only where `_enumeratedOnce` is not set, and there nobody calls back
      have outside (hcleared : s.enumeratedOnce = false) : depth rest = 0 := by
        have hcalm := (h.idle hcleared).calm party
        rw [hframes] at hcalm
        exact hcalm.outside
      refine h.goes locks hframes rfl ?_ same fun hcleared hcalm => ?_
      · split
        · exact hrest.push rfl
        · rename_i hcleared
          exact ⟨fun _ => outside (Bool.eq_false_iff.mpr hcleared), hrest⟩
      · have hunset : ¬ s.enumeratedOnce = true := Bool.eq_false_iff.mp hcleared
        rw [if_neg hunset]
        exact hcalm.replace rfl
  | refreshing call =>
      obtain rfl := Option.some.inj hrun
      exact h.goes locks hframes rfl ⟨fun _ => hreplaces rfl, hrest.push rfl⟩ same
        fun _ hcalm => (hcalm.replace rfl).push rfl (hreplaces rfl)
  | setEnumerated call =>
      obtain rfl := Option.some.inj hrun
      exact h.goes locks hframes rfl (hrest.push rfl) (by rintro ⟨⟩) (by rintro ⟨⟩)
  | locking work =>
      obtain ⟨lock, hlock, rfl⟩ := Option.map_eq_some_iff.mp hrun
      cases work with
      | call call =>
          refine h.goes locks hframes rfl (hrest.push rfl) (fun hcleared => ?_) fun _ hcalm => ?_
          · -- a call that is here does not loop, so it registers nobody
            have hloops := ((h.idle hcleared).calm party).loops (.locking (.call call))
              (hframes ▸ List.mem_cons_self)
            exact ⟨h.idle hcleared, observers_body hloops (h.idle hcleared).observers⟩
          · exact hcalm.replace (hcalm.loops (.locking (.call call)) List.mem_cons_self)
      | newList newList =>
          exact h.goes locks hframes rfl ⟨fun _ => hreplaces rfl, hrest⟩ same
            fun _ hcalm => hcalm.replace rfl
  | working work decision =>
      obtain ⟨lock, hlock, rfl⟩ := Option.map_eq_some_iff.mp hrun
      cases work with
      | call call =>
          exact h.goes locks hframes rfl (outermost_after decision hrest) same
            fun _ hcalm => calm_after decision hcalm.rest hcalm.outside
      | newList newList =>
          refine h.goes locks hframes rfl (outermost_after decision hrest) (fun hcleared => ?_)
            fun _ hcalm => calm_after decision hcalm.rest hcalm.outside
          refine ⟨h.idle hcleared, ?_⟩
          change (s.helper.onNewInterfacesList newList).observers = ∅
          rw [Helper.onNewInterfacesList_eq]
          exact (Helper.observers_notifyAll ..).trans (h.idle hcleared).observers
  | clearTerminate =>
      obtain rfl := Option.some.inj hrun
      exact h.goes locks hframes rfl (hrest.push rfl) same fun _ hcalm => hcalm.replace rfl
  | createThread =>
      rw [Blocking.run] at hrun
      split at hrun
      · obtain rfl := Option.some.inj hrun
        exact h.moves locks same fun _ => .inl rfl
      · rename_i hjoinable
        obtain rfl := Option.some.inj hrun
        -- two threads move: the one that calls, and the new one
        refine h.moves locks same fun q => ?_
        by_cases hthread : q = none
        · subst hthread
          rw [frames_goes]
          exact .inr ⟨⟨fun _ => rfl, trivial⟩, fun _ _ => calm_nil.push rfl rfl⟩
        · rw [frames_goes_of_ne _ hthread]
          by_cases hq : q = party
          · rw [hq, frames_returns, hframes]
            exact .inr ⟨hrest, fun _ hcalm => hcalm.rest⟩
          · exact .inl (Function.update_of_ne hq ..)
  | setTerminate =>
      obtain rfl := Option.some.inj hrun
      exact h.goes locks hframes rfl (hrest.push rfl) same fun _ hcalm => hcalm.replace rfl
  | joinable =>
      by_cases runs : s.joinable = true
      · rw [Blocking.run, if_pos runs] at hrun
        obtain rfl := Option.some.inj hrun
        exact h.goes locks hframes rfl (hrest.push rfl) same fun _ hcalm => hcalm.replace rfl
      · rw [Blocking.run, if_neg runs] at hrun
        obtain rfl := Option.some.inj hrun
        exact h.goes locks hframes rfl hrest same fun _ hcalm => hcalm.rest
  | join =>
      rw [Blocking.run] at hrun
      split at hrun
      · obtain rfl := Option.some.inj hrun
        exact h.moves locks same fun _ => .inl rfl
      · obtain ⟨-, heq⟩ := Option.ite_none_right_eq_some.mp hrun
        obtain rfl := Option.some.inj heq
        exact h.goes locks hframes rfl (hrest.push rfl) same fun _ hcalm => hcalm.replace rfl
  | resetThread =>
      rw [Blocking.run] at hrun
      split at hrun
      · obtain rfl := Option.some.inj hrun
        exact h.moves locks same fun _ => .inl rfl
      · obtain rfl := Option.some.inj hrun
        exact h.goes locks hframes rfl (hrest.push rfl) same fun _ hcalm => hcalm.replace rfl
  | clearEnumerated =>
      obtain rfl := Option.some.inj hrun
      -- the only step that resets `_enumeratedOnce`, where the run says that all is idle
      exact h.goes locks hframes rfl hrest (fun _ => ⟨hresets rfl, (hresets rfl).observers⟩)
        fun _ hcalm => hcalm.rest
  | checking =>
      obtain rfl := Option.some.inj hrun
      refine h.goes locks hframes rfl ?_ same fun _ hcalm => ?_
      · split
        · exact hrest
        · split
          · exact ⟨fun _ => hreplaces rfl, hrest⟩
          · exact ⟨fun _ => hreplaces rfl, hrest⟩
      · split
        · exact hcalm.rest
        · split
          · exact hcalm.replace rfl
          · exact hcalm.replace rfl
  | polling =>
      obtain rfl := Option.some.inj hrun
      exact h.goes locks hframes rfl ⟨fun _ => hreplaces rfl, fun _ => hreplaces rfl, hrest⟩ same
        fun _ hcalm => (hcalm.replace rfl).push rfl (hreplaces rfl)

/-- **One step** keeps the invariant. -/
theorem Tidy.next {s s' : Blocking T O} {event : Event T O} (h : s.Tidy)
    (hstep : Meeting Undisturbed (Steps Blocking.next) s event s') : s'.Tidy := by
  obtain ⟨hundisturbed, hnext⟩ := hstep
  have locks : s'.Locks := h.locks.next hnext
  have same (hcleared : s.enumeratedOnce = false) : s.Idle ∧ s.helper.observers = ∅ :=
    ⟨h.idle hcleared, (h.idle hcleared).observers⟩
  obtain ⟨-, hevent⟩ := Option.ite_none_left_eq_some.mp hnext
  cases event with
  | systemChanges interfaces =>
      obtain rfl := Option.some.inj hevent
      exact h.moves locks same fun _ => .inl rfl
  | call t call =>
      dsimp only at hevent
      split at hevent
      · rename_i hframes
        obtain rfl := Option.some.inj hevent
        refine h.goes locks hframes rfl ?_ same fun _ _ => calm_begin call
        rw [← List.append_nil (begin call)]
        exact outermost_begin call trivial
      · cases hevent
  | callback party call =>
      dsimp only at hevent
      split at hevent
      · rename_i work decision rest hframes
        obtain ⟨hcalls, heq⟩ := Option.ite_none_right_eq_some.mp hevent
        obtain rfl := Option.some.inj heq
        have houtermost : Outermost (.working work decision :: rest) :=
          hframes ▸ h.outermost party
        refine h.goes locks hframes rfl (outermost_begin call houtermost) same
          fun hcleared hcalm => ?_
        -- nothing calls back before the first enumeration
        have quiet := not_callsBack (h.idle hcleared).observers
          (hcalm.loops (.working work decision) List.mem_cons_self)
        cases hcalls.symm.trans quiet
      · cases hevent
  | advance party due =>
      obtain ⟨frame, rest, hframes, hrun⟩ := run_of_advance hnext
      refine h.run hframes (fun hresets => hundisturbed ?_) hrun
      rw [hframes]
      exact hresets

theorem tidy_of_reaches {system : Interfaces} {s : Blocking T O}
    (h : Reaches (Meeting Undisturbed (Steps next)) { system := system } s) : s.Tidy := by
  have start : Tidy ({ system := system } : Blocking T O) :=
    ⟨⟨fun _ => rfl, fun hc => absurd rfl hc⟩, fun _ => ⟨rfl, fun _ => calm_nil⟩, fun _ => trivial⟩
  exact h.invariant (fun _ _ _ ha hab => ha.next hab) start

/-! ### A loop keeps its table -/

/-- The steps in which a thread does not come back from what is on top of `frames`. -/
def Staying (party : Option T) (frames : List (Frame O))
    (step : Blocking T O → Event T O → Blocking T O → Prop) (s : Blocking T O) (event : Event T O)
    (s' : Blocking T O) : Prop :=
  step s event s' ∧ frames <:+ s'.frames party

/-- The table changes only when an `onNewInterfacesList` releases the lock. -/
theorem table_of_next {s s' : Blocking T O} {event : Event T O} (h : Steps next s event s') :
    s'.helper.networkInterfaces = s.helper.networkInterfaces ∨
      ∃ party newList decision rest, s.frames party = .working (.newList newList) decision :: rest ∧
        s'.frames = Function.update s.frames party (after decision ++ rest) := by
  rcases begins_of_next h with ⟨party, due, frame, rest, hframes, hrun⟩ |
    ⟨party, call, -, -, rfl⟩ | ⟨interfaces, rfl⟩
  · cases frame with
    | locking work =>
        obtain ⟨lock, -, rfl⟩ := Option.map_eq_some_iff.mp hrun
        cases work with
        -- calls of the program do not touch the table
        | call call => exact .inl (Polling.networkInterfaces_body s.helper call)
        | newList newList => exact .inl rfl
    | working work decision =>
        obtain ⟨lock, -, rfl⟩ := Option.map_eq_some_iff.mp hrun
        cases work with
        | call call => exact .inl rfl
        | newList newList => exact .inr ⟨party, newList, decision, rest, hframes, rfl⟩
    | testing | refreshing | setEnumerated | clearTerminate | setTerminate | clearEnumerated
    | checking | polling =>
        obtain rfl := Option.some.inj hrun
        exact .inl rfl
    | joinable =>
        obtain rfl := Option.some.inj hrun
        left
        split
        · rfl
        · rfl
    | createThread | resetThread =>
        rw [run] at hrun
        split at hrun
        · obtain rfl := Option.some.inj hrun
          exact .inl rfl
        · obtain rfl := Option.some.inj hrun
          exact .inl rfl
    | join =>
        rw [run] at hrun
        split at hrun
        · obtain rfl := Option.some.inj hrun
          exact .inl rfl
        · obtain ⟨-, heq⟩ := Option.ite_none_right_eq_some.mp hrun
          obtain rfl := Option.some.inj heq
          exact .inl rfl
  · exact .inl rfl
  · exact .inl rfl

omit [DecidableEq T] [DecidableEq O] in
/-- Below what is done under the lock, the lock is held. -/
theorem depth_pos_of_suffix {work : Work O} {decision : Option Decision}
    {rest frames : List (Frame O)} (h : .working work decision :: rest <:+ frames) :
    0 < depth frames := by
  have within : depth (.working work decision :: rest) ≤ depth frames := h.sublist.countP_le
  rw [depth_working] at within
  exact Nat.lt_of_lt_of_le (Nat.succ_pos _) within

/-- A thread is in a loop over a table. -/
structure InLoop (party : Option T) (frames : List (Frame O)) (table : Interfaces)
    (s : Blocking T O) : Prop where
  tidy : s.Tidy
  inside : frames <:+ s.frames party
  table : s.helper.networkInterfaces = table

/-- While a thread is in a loop, no `onNewInterfacesList` releases the lock. -/
theorem InLoop.next {party : Option T} {work : Work O} {decision : Option Decision}
    {rest : List (Frame O)} {table : Interfaces} {s s' : Blocking T O} {event : Event T O}
    (h : s.InLoop party (.working work decision :: rest) table)
    (hstep : Staying party (.working work decision :: rest)
      (Meeting Undisturbed (Steps Blocking.next)) s event s') :
    s'.InLoop party (.working work decision :: rest) table := by
  obtain ⟨tidy, inside, table⟩ := h
  obtain ⟨hmeets, inside'⟩ := hstep
  refine ⟨tidy.next hmeets, inside', ?_⟩
  rcases table_of_next hmeets.2 with hsame | ⟨q, newList, decision', rest', hframes, goes⟩
  · exact hsame.trans table
  · exfalso
    have held : 0 < s.lock.acquisitions party := by
      rw [tidy.locks.lock]
      exact depth_pos_of_suffix inside
    have held' : 0 < s.lock.acquisitions q := by
      rw [tidy.locks.lock, hframes, depth_working]
      exact Nat.succ_pos _
    obtain rfl : q = party := RecursiveMutex.eq_of_acquisitions held held'
    have outermost := tidy.outermost q
    rw [hframes] at outermost
    rw [goes, Function.update_self] at inside'
    have above := depth_pos_of_suffix inside'
    rw [depth_after, outermost.1 rfl] at above
    cases above

/-- **A loop keeps its table**: where `_enumeratedOnce` is reset only while nobody observes, loops
or calls back, the table stays the same from the beginning of a loop to its end, whatever its
callbacks and the other threads do. -/
theorem stable_of_reaches {system : Interfaces} {s s' : Blocking T O} {party : Option T}
    {work : Work O} {decision : Option Decision} {rest : List (Frame O)}
    (h : Reaches (Meeting Undisturbed (Steps next)) { system := system } s)
    (inside : .working work decision :: rest <:+ s.frames party)
    (h' : Reaches (Staying party (.working work decision :: rest)
      (Meeting Undisturbed (Steps next))) s s') :
    s'.helper.networkInterfaces = s.helper.networkInterfaces := by
  have start : s.InLoop party (.working work decision :: rest) s.helper.networkInterfaces :=
    ⟨tidy_of_reaches h, inside, rfl⟩
  exact (h'.invariant (fun _ _ _ ha hab => ha.next hab) start).table

/-! ### A loop loses its table -/

omit [DecidableEq O] in
theorem Locks.relock {s : Blocking T O} (h : s.Locks) {party : Option T}
    (held : 0 < depth (s.frames party)) :
    ∃ lock, s.lock.lock party = some lock ∧ 0 < lock.acquisitions party := by
  rw [← h.lock] at held
  obtain ⟨lock, hlock⟩ := Option.isSome_iff_exists.mp (RecursiveMutex.isSome_lock_unlock held).1
  refine ⟨lock, hlock, ?_⟩
  rw [(RecursiveMutex.acquisitions_lock hlock).1, Function.update_self]
  exact Nat.succ_pos _

/-- A call that finds `_enumeratedOnce` not set, made under the lock, replaces the table by the list
of the system. -/
theorem replaced_of_testing {s : Blocking T O} (locks : s.Locks) (running : s.aborted = false)
    (unset : s.enumeratedOnce = false) {party : Option T} {call : ApiCall O}
    {frames : List (Frame O)} (hframes : s.frames party = .testing call :: frames)
    (held : 0 < depth frames) :
    ∃ s', Reaches (Staying party frames (Steps next)) s s' ∧
      s'.helper.networkInterfaces = s.system := by
  have inside : 0 < depth (s.frames party) := by
    rw [hframes]
    exact held
  obtain ⟨lock, hlock, owns⟩ := locks.relock inside
  obtain ⟨lock', hunlock⟩ := Option.isSome_iff_exists.mp (RecursiveMutex.isSome_lock_unlock owns).2
  -- the four steps: the test, the reading, and the list under the lock, which is recursive
  let s₁ := s.goes party (.refreshing call :: frames)
  let s₂ := s₁.goes party (.locking (.newList s.system) :: .setEnumerated call :: frames)
  let s₃ := s₂.enter party (.setEnumerated call :: frames) lock (.newList s.system)
  let s₄ := s₃.leave party (.setEnumerated call :: frames) none lock' (.newList s.system)
  have tests : Steps next s (.advance party true) s₁ := by
    refine next_advance true running hframes ?_
    rw [run, unset]
    rfl
  have refreshes : Steps next s₁ (.advance party true) s₂ :=
    next_advance true running (s.frames_goes party _) rfl
  have locked : Steps next s₂ (.advance party true) s₃ := by
    refine next_advance true running (s₁.frames_goes party _) ?_
    change (s.lock.lock party).map _ = some s₃
    rw [hlock]
    rfl
  have released : Steps next s₃ (.advance party true) s₄ := by
    refine next_advance true running (s₂.frames_goes party _) ?_
    change (lock.unlock party).map _ = some s₄
    rw [hunlock]
    rfl
  refine ⟨s₄, ?_, ?_⟩
  · exact .more (.more (.more (.more .refl
      ⟨tests, [_], (s.frames_goes party _).symm⟩)
      ⟨refreshes, [_, _], (s₁.frames_goes party _).symm⟩)
      ⟨locked, [_, _], (s₂.frames_goes party _).symm⟩)
      ⟨released, [_], (s₃.frames_goes party _).symm⟩
  · change (s.helper.onNewInterfacesList s.system).networkInterfaces = s.system
    rw [Helper.onNewInterfacesList_eq]

/-- **A loop loses its table**: wherever a loop is about to call back and `_enumeratedOnce` is not
set, a `getInterfaceByName` in the callback can replace the table by any other, under the loop. -/
theorem replaced_of_callback {system : Interfaces} {s : Blocking T O}
    (h : Reaches (Steps next) { system := system } s) (running : s.aborted = false)
    (unset : s.enumeratedOnce = false) {party : Option T} {work : Work O}
    {decision : Option Decision} {rest : List (Frame O)}
    (hframes : s.frames party = .working work decision :: rest)
    (calls : work.callsBack s.helper = true) (interfaces : Interfaces) :
    ∃ s', Reaches (Staying party (.working work decision :: rest) (Steps next)) s s' ∧
      s'.helper.networkInterfaces = interfaces := by
  let s₁ : Blocking T O := { s with system := interfaces }
  let s₂ := s₁.goes party (.testing (.getInterfaceByName []) :: .working work decision :: rest)
  have aborts : ¬ s.aborted = true := Bool.eq_false_iff.mp running
  have changes : Steps next s (.systemChanges interfaces) s₁ := by
    rw [Steps, next, if_neg aborts]
  have hframes₁ : s₁.frames party = .working work decision :: rest := hframes
  have callsBack : Steps next s₁ (.callback party (.getInterfaceByName [])) s₂ := by
    rw [Steps, next, if_neg aborts]
    rw [hframes₁]
    exact if_pos calls
  have locks : s₂.Locks := ((locks_of_reaches h).next changes).next callsBack
  have held : 0 < depth (.working work decision :: rest) := by
    rw [depth_working]
    exact Nat.succ_pos _
  obtain ⟨s', more, table⟩ :=
    replaced_of_testing locks running unset (s₁.frames_goes party _) held
  refine ⟨s', ?_, table⟩
  exact .head ⟨_, changes, hframes ▸ List.suffix_rfl⟩
    (.head ⟨_, callsBack, [_], (s₁.frames_goes party _).symm⟩ more)

instance decidableCalm (frames : List (Frame O)) : Decidable (Calm frames) :=
  decidable_of_iff ((∀ frame ∈ frames, frame.loops = false) ∧ depth frames.tail = 0)
    ⟨fun h => ⟨h.1, h.2⟩, fun h => ⟨h.1, h.2⟩⟩

instance decidableIdle [Fintype T] (s : Blocking T O) : Decidable s.Idle :=
  decidable_of_iff (s.helper.observers = ∅ ∧ ∀ party, Calm (s.frames party))
    ⟨fun h => ⟨h.1, h.2⟩, fun h => ⟨h.1, h.2⟩⟩

instance decidableUndisturbed [Fintype T] (s : Blocking T O) (event : Event T O) :
    Decidable (s.Undisturbed event) :=
  match event with
  | .advance party _                           =>
      inferInstanceAs (Decidable ((s.frames party).head?.any Frame.resets = true → s.Idle))
  | .systemChanges _ | .call .. | .callback .. => inferInstanceAs (Decidable True)

end

/-- The last observer is unregistered, up to `_enumeratedOnce = false`. -/
def stops : List (Event Bool Unit) :=
  registers ++ List.replicate 2 (.advance none true) ++
    .call false (.unregisterObserver (some ())) :: List.replicate 4 (.advance (some false) true) ++
    .advance none true :: List.replicate 2 (.advance (some false) true)

/-- The interfaces are enumerated after that. -/
def enumeratesAfter : List (Event Bool Unit) :=
  stops ++ .advance (some false) true :: .call true (.enumerateInterfaces true) ::
    List.replicate 6 (.advance (some true) true)

/-- The interfaces are enumerated meanwhile. -/
def enumeratesMeanwhile : List (Event Bool Unit) :=
  stops ++ .call true (.enumerateInterfaces true) :: List.replicate 2 (.advance (some true) true) ++
    [.advance (some false) true]

/-- The system has no interface any more, and the callback asks for one. -/
def asks : List (Event Bool Unit) :=
  [.systemChanges ∅, .callback (some true) (.getInterfaceByName "en0".toList),
    .advance (some true) true, .advance (some true) true, .advance (some true) true]

theorem stable_of_reaches_asks :
    ∃ s s', exec next ({ system := onlyEn0 0 } : Blocking Bool Unit) enumeratesAfter = some s ∧
      exec next s asks = some s' ∧ s'.frames (some true) = s.frames (some true) ∧
      s'.helper.networkInterfaces = s.helper.networkInterfaces := by
  obtain ⟨s, s₁, s₂, s₃, s₄, s', loop, hrun, h₁, h₂, h₃, h₄, h₅, hs, hs₁, hs₂, hs₃, hs₄, hs'⟩ :
      ∃ s s₁ s₂ s₃ s₄ s' loop,
        exec (guarded Undisturbed next) ({ system := onlyEn0 0 } : Blocking Bool Unit)
          enumeratesAfter = some s ∧
        next s (.systemChanges ∅) = some s₁ ∧
        next s₁ (.callback (some true) (.getInterfaceByName "en0".toList)) = some s₂ ∧
        next s₂ (.advance (some true) true) = some s₃ ∧
        next s₃ (.advance (some true) true) = some s₄ ∧
        next s₄ (.advance (some true) true) = some s' ∧
        s.frames (some true) = [.working loop none] ∧
        s₁.frames (some true) = [.working loop none] ∧
        s₂.frames (some true) =
          [.testing (.getInterfaceByName "en0".toList)] ++ [.working loop none] ∧
        s₃.frames (some true) =
          [.locking (.call (.getInterfaceByName "en0".toList))] ++ [.working loop none] ∧
        s₄.frames (some true) =
          [.working (.call (.getInterfaceByName "en0".toList)) none] ++ [.working loop none] ∧
        s'.frames (some true) = [.working loop none] :=
    ⟨_, _, _, _, _, _, _, rfl, rfl, rfl, rfl, rfl, rfl, rfl, rfl, rfl, rfl, rfl, rfl⟩
  -- no step of the call resets `_enumeratedOnce`, so none disturbs
  have goesOn {a b : Blocking Bool Unit} {frame : Frame Unit} {rest : List (Frame Unit)}
      (hframes : a.frames (some true) = frame :: rest) (hresets : frame.resets = false)
      (hstep : next a (.advance (some true) true) = some b) :
      Meeting Undisturbed (Steps next) a (.advance (some true) true) b := by
    refine ⟨fun hc => ?_, hstep⟩
    rw [hframes] at hc
    cases hresets.symm.trans hc
  have changes : Meeting Undisturbed (Steps next) s (.systemChanges ∅) s₁ := ⟨trivial, h₁⟩
  have calls : Meeting Undisturbed (Steps next) s₁
      (.callback (some true) (.getInterfaceByName "en0".toList)) s₂ := ⟨trivial, h₂⟩
  have inside : Reaches (Staying (some true) [.working loop none]
      (Meeting Undisturbed (Steps next))) s s' :=
    .more (.more (.more (.more (.more .refl
      ⟨changes, [], hs₁.symm⟩)
      ⟨calls, [_], hs₂.symm⟩)
      ⟨goesOn hs₂ rfl h₃, [_], hs₃.symm⟩)
      ⟨goesOn hs₃ rfl h₄, [_], hs₄.symm⟩)
      ⟨goesOn hs₄ rfl h₅, [], hs'.symm⟩
  have asked : exec next s asks = some s' :=
    Option.bind_eq_some_iff.mpr ⟨s₁, h₁, Option.bind_eq_some_iff.mpr ⟨s₂, h₂,
      Option.bind_eq_some_iff.mpr ⟨s₃, h₃, Option.bind_eq_some_iff.mpr ⟨s₄, h₄,
        Option.bind_eq_some_iff.mpr ⟨s', h₅, rfl⟩⟩⟩⟩⟩
  exact ⟨s, s', exec_of_guarded hrun, asked, hs'.trans hs.symm,
    stable_of_reaches (reaches_of_exec_guarded hrun) ⟨[], hs.symm⟩ inside⟩

theorem replaced_of_callback_enumeratesMeanwhile :
    ∃ s rest,
      exec next ({ system := onlyEn0 0 } : Blocking Bool Unit) enumeratesMeanwhile = some s ∧
      s.frames (some true) = rest ∧ ∀ interfaces, ∃ s',
        Reaches (Staying (some true) rest (Steps next)) s s' ∧
          s'.helper.networkInterfaces = interfaces := by
  obtain ⟨s, work, decision, rest, hrun, running, unset, hframes, calls⟩ :
      ∃ s work decision rest,
        exec next ({ system := onlyEn0 0 } : Blocking Bool Unit) enumeratesMeanwhile = some s ∧
        s.aborted = false ∧ s.enumeratedOnce = false ∧
        s.frames (some true) = .working work decision :: rest ∧
        work.callsBack s.helper = true := ⟨_, _, _, _, rfl, rfl, rfl, rfl, rfl⟩
  exact ⟨s, _, hrun, hframes,
    replaced_of_callback (reaches_of_exec hrun) running unset hframes calls⟩

end Blocking

end NetworkInterface
