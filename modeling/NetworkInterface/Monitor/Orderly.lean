import NetworkInterface.Monitor.Blocking

/-!
# Monitor — Orderly

Orderly runs of the helper with a polling delegate: a call of the delegate begins when those decided
before it have returned, and no callback registers the first observer or unregisters the last one.

The frames on the stacks of the threads are those that the code puts there (`Stacked`), the
decisions are carried out one after the other, and the process does not abort (`inv_of_reaches`).
-/

namespace NetworkInterface

open Support Runs LifeCycle

namespace Blocking

/-! ### The stacks -/

/-- The frame is part of a call of the delegate. -/
def Frame.isDeciding {O : Type*} : Frame O → Bool
  | .clearTerminate | .createThread | .setTerminate | .joinable | .join | .resetThread
  | .clearEnumerated => true
  | .testing _ | .refreshing _ | .setEnumerated _ | .locking _ | .working .. | .checking
  | .polling         => false

/-- The call of the delegate has begun. -/
def Frame.isBegun {O : Type*} : Frame O → Bool
  | .createThread | .joinable | .join | .resetThread | .clearEnumerated => true
  | .testing _ | .refreshing _ | .setEnumerated _ | .locking _ | .working .. | .clearTerminate
  | .setTerminate | .checking | .polling => false

/-- The call of the delegate is about to join the observer thread. -/
def Frame.isJoining {O : Type*} : Frame O → Bool
  | .joinable | .join => true
  | .testing _ | .refreshing _ | .setEnumerated _ | .locking _ | .working .. | .clearTerminate
  | .createThread | .setTerminate | .resetThread | .clearEnumerated | .checking | .polling => false

/-- The call of the delegate has joined the observer thread. -/
def Frame.hasJoined {O : Type*} : Frame O → Bool
  | .resetThread | .clearEnumerated => true
  | .testing _ | .refreshing _ | .setEnumerated _ | .locking _ | .working .. | .clearTerminate
  | .createThread | .setTerminate | .joinable | .join | .checking | .polling => false

section
variable {T O : Type*}

/-- Where a call can begin: on a client that is in no call, or in a callback. -/
def Starts (party : Option T) : List (Frame O) → Prop
  | []         => party ≠ none
  | frame :: _ => frame.isWorking = true

/-- What `onNewInterfacesList` returns to. -/
def Reports : List (Frame O) → Prop
  | .setEnumerated _ :: _ | .checking :: _ => True
  | _                                      => False

theorem Frame.isBegun_of_isJoining {frame : Frame O} (h : frame.isJoining = true) :
    frame.isBegun = true := by
  cases frame with
  | joinable | join => rfl
  | testing | refreshing | setEnumerated | locking | working | clearTerminate | createThread
  | setTerminate | resetThread | clearEnumerated | checking | polling => cases h

theorem Frame.isBegun_of_hasJoined {frame : Frame O} (h : frame.hasJoined = true) :
    frame.isBegun = true := by
  cases frame with
  | resetThread | clearEnumerated => rfl
  | testing | refreshing | setEnumerated | locking | working | clearTerminate | createThread
  | setTerminate | joinable | join | checking | polling => cases h

/-- On a thread that does not hold the lock, no call is made in a callback. -/
theorem eq_nil_of_starts {party : Option T} {frame : Frame O} {rest : List (Frame O)}
    (h : Starts party rest) (hdepth : depth (frame :: rest) = 0) : rest = [] := by
  cases rest with
  | nil => rfl
  | cons next rest =>
      have held := List.countP_eq_zero.mp hdepth next
        (List.mem_cons_of_mem frame List.mem_cons_self)
      exact absurd h held

variable [DecidableEq O]

/-- A frame on top of others.  What is called in a callback takes no decision to the delegate. -/
def Frame.Fits (party : Option T) (helper : Helper O) (rest : List (Frame O)) : Frame O → Prop
  | .testing call | .refreshing call | .setEnumerated call =>
      Starts party rest ∧ call.waits = true ∧ (rest ≠ [] → (call.body helper).2 = none)
  | .locking (.call call)           =>
      Starts party rest ∧ (rest ≠ [] → (call.body helper).2 = none)
  | .locking (.newList _)           => Reports rest
  | .working (.call _) decision     => Starts party rest ∧ (rest ≠ [] → decision = none)
  | .working (.newList _) decision  => Reports rest ∧ decision = none
  | .clearTerminate | .createThread | .setTerminate | .joinable | .join | .resetThread
  | .clearEnumerated                => rest = [] ∧ party ≠ none
  | .checking | .polling            => rest = [] ∧ party = none

/-- The frames of a thread, each on top of the next ones. -/
def Stacked (party : Option T) (helper : Helper O) : List (Frame O) → Prop
  | []            => True
  | frame :: rest => frame.Fits party helper rest ∧ Stacked party helper rest

end

/-! ### Decisions -/

section
variable {O : Type*} [DecidableEq O]

/-- What the part under the lock decides. -/
theorem body_spec (helper : Helper O) (call : ApiCall O) :
    ((call.body helper).2 = none → hasObserver (call.body helper).1 = hasObserver helper) ∧
      ∀ decision, (call.body helper).2 = some decision → ∀ {order started},
        Alternates started order (hasObserver helper) →
          Alternates started (order ++ [decision]) (hasObserver (call.body helper).1) := by
  have asRequest (request : Request O)
      (hbody : call.body helper = ((request.apply helper).1,
        if (request.apply helper).2 then some request.decision else none)) :
      ((call.body helper).2 = none → hasObserver (call.body helper).1 = hasObserver helper) ∧
      ∀ decision, (call.body helper).2 = some decision → ∀ {order started},
        Alternates started order (hasObserver helper) →
          Alternates started (order ++ [decision]) (hasObserver (call.body helper).1) := by
    obtain ⟨helper', decides, happly, hsame, hdecides⟩ := apply_spec helper request
    rw [hbody, happly]
    cases decides with
    | false => exact ⟨fun _ => hsame rfl, nofun⟩
    | true =>
        refine ⟨nofun, fun decision hdecision => ?_⟩
        obtain rfl := Option.some.inj hdecision
        exact hdecides rfl
  cases call with
  | enumerateInterfaces | getInterfaceByName => exact ⟨fun _ => rfl, nofun⟩
  | registerObserver observer => exact asRequest (.registerObserver observer) rfl
  | unregisterObserver observer => exact asRequest (.unregisterObserver observer) rfl

/-- Whether a call that waits for the first enumeration decides anything depends on there being
an observer. -/
theorem undecided_of_waits {helper helper' : Helper O} {call : ApiCall O}
    (hwaits : call.waits = true) (hsame : hasObserver helper' = hasObserver helper)
    (hnone : (call.body helper).2 = none) : (call.body helper').2 = none := by
  cases call with
  | enumerateInterfaces | getInterfaceByName => rfl
  | unregisterObserver observer => cases hwaits
  | registerObserver observer =>
      cases observer with
      | none => rfl
      | some observer =>
          have observed : hasObserver helper = true := by
            by_contra hc
            have hempty : helper.observers = ∅ :=
              Finset.not_nonempty_iff_eq_empty.mp (of_decide_eq_false (Bool.eq_false_iff.mpr hc))
            have hmem : observer ∉ helper.observers := by
              rw [hempty]
              exact Finset.notMem_empty observer
            rw [ApiCall.body, Helper.registerObserver_of_notMem hmem] at hnone
            dsimp only at hnone
            rw [decide_eq_true hempty] at hnone
            cases hnone
          have observed' : helper'.observers.Nonempty := of_decide_eq_true (hsame.trans observed)
          by_cases hmem : observer ∈ helper'.observers
          · rw [ApiCall.body, Helper.registerObserver_of_mem hmem]
            rfl
          · rw [ApiCall.body, Helper.registerObserver_of_notMem hmem]
            dsimp only
            rw [decide_eq_false observed'.ne_empty]
            rfl

end

/-! ### The stacks of the other threads -/

section
variable {T O : Type*} [DecidableEq O]

/-- The helper is changed by another thread, which holds the lock. -/
theorem Stacked.other {party : Option T} {helper : Helper O} {frames : List (Frame O)}
    (helper' : Helper O) (h : Stacked party helper frames) (hdepth : depth frames = 0) :
    Stacked party helper' frames := by
  induction frames with
  | nil => trivial
  | cons frame rest ih =>
      obtain ⟨hfits, hrest⟩ := h
      refine ⟨?_, ih hrest ?_⟩
      · have outer {call : ApiCall O} (hstarts : Starts party rest) :
            rest ≠ [] → (call.body helper').2 = none :=
          fun hc => absurd (eq_nil_of_starts hstarts hdepth) hc
        cases frame with
        | testing | refreshing | setEnumerated => exact ⟨hfits.1, hfits.2.1, outer hfits.1⟩
        | locking work =>
            cases work with
            | call call => exact ⟨hfits.1, outer hfits.1⟩
            | newList => exact hfits
        | working work =>
            cases work with
            | call | newList => exact hfits
        | clearTerminate | createThread | setTerminate | joinable | join | resetThread
        | clearEnumerated | checking | polling => exact hfits
      · exact Nat.le_zero.mp ((List.sublist_cons_self frame rest).countP_le.trans hdepth.le)

/-- The frame can be below others. -/
def Frame.isBelow : Frame O → Bool
  | .setEnumerated _ | .working .. | .checking => true
  | .testing _ | .refreshing _ | .locking _ | .clearTerminate | .createThread | .setTerminate
  | .joinable | .join | .resetThread | .clearEnumerated | .polling => false

/-- What is below a frame can be there. -/
theorem Frame.Fits.below {party : Option T} {helper : Helper O} {frame : Frame O}
    {rest : List (Frame O)} (h : frame.Fits party helper rest) :
    ∀ next ∈ rest.head?, next.isBelow = true := by
  have starts {rest : List (Frame O)} (hstarts : Starts party rest) :
      ∀ next ∈ rest.head?, next.isBelow = true := by
    intro next hnext
    obtain ⟨tail, rfl⟩ := List.head?_eq_some_iff.mp hnext
    cases next with
    | working => rfl
    | testing | refreshing | setEnumerated | locking | clearTerminate | createThread | setTerminate
    | joinable | join | resetThread | clearEnumerated | checking | polling => cases hstarts
  have reports {rest : List (Frame O)} (hreports : Reports rest) :
      ∀ next ∈ rest.head?, next.isBelow = true := by
    intro next hnext
    obtain ⟨tail, rfl⟩ := List.head?_eq_some_iff.mp hnext
    cases next with
    | setEnumerated | checking => rfl
    | testing | refreshing | locking | working | clearTerminate | createThread | setTerminate
    | joinable | join | resetThread | clearEnumerated | polling => cases hreports
  have nothing {rest : List (Frame O)} (hrest : rest = []) :
      ∀ next ∈ rest.head?, next.isBelow = true := by
    rw [hrest]
    nofun
  cases frame with
  | testing | refreshing | setEnumerated => exact starts h.1
  | locking work =>
      cases work with
      | call => exact starts h.1
      | newList => exact reports h
  | working work =>
      cases work with
      | call => exact starts h.1
      | newList => exact reports h.1
  | clearTerminate | createThread | setTerminate | joinable | join | resetThread | clearEnumerated
  | checking | polling => exact nothing h.1

/-- The helper is changed on top of the frames, and there is an observer as before. -/
theorem Stacked.below {party : Option T} {helper helper' : Helper O} {frames : List (Frame O)}
    (hsame : hasObserver helper' = hasObserver helper) (h : Stacked party helper frames)
    (hbelow : ∀ frame ∈ frames.head?, frame.isBelow = true) : Stacked party helper' frames := by
  induction frames with
  | nil => trivial
  | cons frame rest ih =>
      obtain ⟨hfits, hrest⟩ := h
      refine ⟨?_, ih hrest hfits.below⟩
      cases frame with
      | setEnumerated call =>
          exact ⟨hfits.1, hfits.2.1, fun hc => undecided_of_waits hfits.2.1 hsame (hfits.2.2 hc)⟩
      | working work =>
          cases work with
          | call | newList => exact hfits
      | checking => exact hfits
      | testing | refreshing | locking | clearTerminate | createThread | setTerminate | joinable
      | join | resetThread | clearEnumerated | polling => cases hbelow _ rfl

/-- A frame of a call of the delegate is alone. -/
theorem Stacked.alone {party : Option T} {helper : Helper O} {frames : List (Frame O)}
    (h : Stacked party helper frames) {frame : Frame O} (hmem : frame ∈ frames)
    (hdeciding : frame.isDeciding = true) : frames = [frame] ∧ party ≠ none := by
  induction frames with
  | nil => cases hmem
  | cons first rest ih =>
      obtain ⟨hfits, hrest⟩ := h
      rcases List.mem_cons.mp hmem with rfl | hmem
      · cases frame with
        | clearTerminate | createThread | setTerminate | joinable | join | resetThread
        | clearEnumerated =>
            rw [hfits.1]
            exact ⟨rfl, hfits.2⟩
        | testing | refreshing | setEnumerated | locking | working | checking | polling =>
            cases hdeciding
      · obtain ⟨rfl, -⟩ := ih hrest hmem
        have below := hfits.below frame rfl
        cases frame with
        | clearTerminate | createThread | setTerminate | joinable | join | resetThread
        | clearEnumerated => cases below
        | testing | refreshing | setEnumerated | locking | working | checking | polling =>
            cases hdeciding

end

/-! ### The invariant -/

section
variable {T O : Type*} [DecidableEq T] [DecidableEq O]

/-- A call of the delegate begins when those decided before it have returned, and no callback
registers the first observer or unregisters the last one. -/
def Orderly (s : Blocking T O) : Event T O → Prop
  | .callback _ call           => (call.body s.helper).2 = none
  | .advance party _           => (s.frames party).head?.any Frame.isEntering = true →
      s.order.head?.map Prod.fst = some party
  | .systemChanges _ | .call .. => True

/-- The decisions still to be carried out by a thread. -/
def decisionsOf (order : List (Option T × Decision)) (party : Option T) : List Decision :=
  order.filterMap fun entry => if entry.1 = party then some entry.2 else none

omit [DecidableEq O] in
theorem decisionsOf_append (order more : List (Option T × Decision)) (party : Option T) :
    decisionsOf (order ++ more) party = decisionsOf order party ++ decisionsOf more party :=
  List.filterMap_append

omit [DecidableEq O] in
theorem decisionsOf_cons_self (party : Option T) (decision : Decision)
    (order : List (Option T × Decision)) :
    decisionsOf ((party, decision) :: order) party = decision :: decisionsOf order party :=
  List.filterMap_cons_some (if_pos rfl)

omit [DecidableEq O] in
theorem decisionsOf_cons_of_ne {party q : Option T} (h : q ≠ party) (decision : Decision)
    (order : List (Option T × Decision)) :
    decisionsOf ((party, decision) :: order) q = decisionsOf order q :=
  List.filterMap_cons_none (if_neg (Ne.symm h))

/-- The decisions are on the stacks of the threads that carry them out, the oldest one first, and
starting and stopping the thread by turns leaves it started exactly when there is an observer. -/
structure Inv (s : Blocking T O) : Prop where
  locks : s.Locks
  notAborted : s.aborted = false
  stacked : ∀ party, Stacked party s.helper (s.frames party)
  pending : ∀ party, (s.frames party).filterMap Frame.pending = decisionsOf s.order party
  turn : ∀ party, ∀ frame ∈ s.frames party, frame.isBegun = true →
    s.order.head?.map Prod.fst = some party
  joining : ∀ party, ∀ frame ∈ s.frames party, frame.isJoining = true →
    s.shouldTerminate = true ∧ s.joinable = true
  joined : ∀ party, ∀ frame ∈ s.frames party, frame.hasJoined = true → s.joinable = false
  alternates : ∃ started, Alternates started (s.order.map Prod.snd) (hasObserver s.helper) ∧
    (s.joinable = true → started = true) ∧
    (started = true → s.joinable = true ∨
      ∃ party, ∃ frame ∈ s.frames party, frame.hasJoined = true)

/-- No call of the delegate goes on. -/
theorem Inv.same {s s' : Blocking T O} (h : s.Inv) (locks : s'.Locks)
    (notAborted : s'.aborted = false) (stacked : ∀ party, Stacked party s'.helper (s'.frames party))
    (pending : ∀ party, (s'.frames party).filterMap Frame.pending = decisionsOf s'.order party)
    (begun : ∀ party frame, frame.isBegun = true →
      (frame ∈ s'.frames party ↔ frame ∈ s.frames party))
    (order : ∃ more, s'.order = s.order ++ more)
    (shouldTerminate : s'.shouldTerminate = s.shouldTerminate) (joinable : s'.joinable = s.joinable)
    (alternates : ∀ started, Alternates started (s.order.map Prod.snd) (hasObserver s.helper) →
      Alternates started (s'.order.map Prod.snd) (hasObserver s'.helper)) : s'.Inv where
  locks := locks
  notAborted := notAborted
  stacked := stacked
  pending := pending
  turn party frame hmem hbegun := by
    obtain ⟨more, horder⟩ := order
    have first := h.turn party frame ((begun party frame hbegun).mp hmem) hbegun
    obtain ⟨entry, hentry, hparty⟩ := Option.map_eq_some_iff.mp first
    rw [horder, List.head?_append, hentry]
    exact congrArg some hparty
  joining party frame hmem hjoining := by
    rw [shouldTerminate, joinable]
    exact h.joining party frame
      ((begun party frame (Frame.isBegun_of_isJoining hjoining)).mp hmem) hjoining
  joined party frame hmem hjoined := by
    rw [joinable]
    exact h.joined party frame
      ((begun party frame (Frame.isBegun_of_hasJoined hjoined)).mp hmem) hjoined
  alternates := by
    obtain ⟨started, halternates, hrun, hstarted⟩ := h.alternates
    rw [joinable]
    refine ⟨started, alternates started halternates, hrun, fun hc => ?_⟩
    rcases hstarted hc with hc | ⟨party, frame, hmem, hjoined⟩
    · exact .inl hc
    · exact .inr ⟨party, frame,
        (begun party frame (Frame.isBegun_of_hasJoined hjoined)).mpr hmem, hjoined⟩

/-- The thread that carries out the oldest decision. -/
theorem Inv.head {s : Blocking T O} (h : s.Inv) {party : Option T} {frame : Frame O}
    {decision : Decision} (hframes : s.frames party = [frame])
    (hpending : frame.pending = some decision)
    (hhead : s.order.head?.map Prod.fst = some party) :
    ∃ order, s.order = (party, decision) :: order ∧ decisionsOf order party = [] := by
  obtain ⟨⟨party, first⟩, hentry, rfl⟩ := Option.map_eq_some_iff.mp hhead
  obtain ⟨order, horder⟩ := List.head?_eq_some_iff.mp hentry
  have whole := h.pending party
  rw [hframes, List.filterMap_cons_some hpending, List.filterMap_nil, horder,
    decisionsOf_cons_self] at whole
  obtain ⟨rfl, hrest⟩ := List.cons.inj whole
  exact ⟨order, horder, hrest.symm⟩

/-- Only one thread carries out a decision. -/
theorem Inv.only {s : Blocking T O} (h : s.Inv) {party q : Option T}
    (hhead : s.order.head?.map Prod.fst = some party) {frame : Frame O} (hmem : frame ∈ s.frames q)
    (hbegun : frame.isBegun = true) : q = party :=
  (Option.some.inj (hhead.symm.trans (h.turn q frame hmem hbegun))).symm

/-- Before a first registration is carried out, no thread is joinable. -/
theorem Inv.stopped_of_first {s : Blocking T O} (h : s.Inv) {party : Option T}
    {order : List (Option T × Decision)}
    (horder : s.order = (party, .onFirstObserverRegistered) :: order) : s.joinable = false := by
  obtain ⟨started, halternates, hrun, -⟩ := h.alternates
  rw [horder] at halternates
  exact Bool.eq_false_iff.mpr fun hc => Bool.false_ne_true (halternates.1.symm.trans (hrun hc))

/-- Until a last unregistration has joined the thread, it is joinable. -/
theorem Inv.running_of_last {s : Blocking T O} (h : s.Inv) {party : Option T} {frame : Frame O}
    {order : List (Option T × Decision)}
    (horder : s.order = (party, .onLastObserverUnregistered) :: order)
    (hframes : s.frames party = [frame]) (hjoined : frame.hasJoined = false) :
    s.joinable = true := by
  obtain ⟨started, halternates, -, hstarted⟩ := h.alternates
  rw [horder] at halternates
  rcases hstarted halternates.1 with hc | ⟨q, next, hmem, hnext⟩
  · exact hc
  · have hhead : s.order.head?.map Prod.fst = some party := by
      rw [horder]
      rfl
    rw [h.only hhead hmem (Frame.isBegun_of_hasJoined hnext), hframes, List.mem_singleton] at hmem
    rw [hmem] at hnext
    cases hjoined.symm.trans hnext

/-- The oldest decision is carried out further. -/
theorem Inv.carry {s s' : Blocking T O} (h : s.Inv) {party : Option T} {frame frame' : Frame O}
    {decision : Decision} (hhead : s.order.head?.map Prod.fst = some party)
    (hframes : s.frames party = [frame]) (hpending : frame.pending = some decision)
    (goes : s'.frames = Function.update s.frames party [frame'])
    (hpending' : frame'.pending = some decision) (fits : frame'.Fits party s.helper [])
    (locks : s'.Locks) (notAborted : s'.aborted = s.aborted) (helper : s'.helper = s.helper)
    (order : s'.order = s.order)
    (first : decision = .onFirstObserverRegistered → s'.joinable = false)
    (last : decision = .onLastObserverUnregistered → s'.joinable = !frame'.hasJoined)
    (joining : frame'.isJoining = true → s'.shouldTerminate = true ∧ s'.joinable = true) :
    s'.Inv := by
  obtain ⟨tail, horder, -⟩ := h.head hframes hpending hhead
  have other {q : Option T} (hq : q ≠ party) : s'.frames q = s.frames q := by
    rw [goes, Function.update_of_ne hq]
  have own : s'.frames party = [frame'] := by
    rw [goes, Function.update_self]
  -- no other call of the delegate is in progress
  have onlyOwn {q : Option T} {frame : Frame O} (hmem : frame ∈ s'.frames q)
      (hbegun : frame.isBegun = true) : q = party := by
    by_contra hq
    rw [other hq] at hmem
    exact hq (h.only hhead hmem hbegun)
  refine ⟨locks, notAborted.trans h.notAborted, fun q => ?_, fun q => ?_,
    fun q next hmem hbegun => ?_, fun q next hmem hjoining => ?_, fun q next hmem hjoined => ?_, ?_⟩
  · by_cases hq : q = party
    · rw [hq, own, helper]
      exact ⟨fits, trivial⟩
    · rw [other hq, helper]
      exact h.stacked q
  · rw [order, ← h.pending q]
    by_cases hq : q = party
    · rw [hq, own, hframes, List.filterMap_cons_some hpending, List.filterMap_cons_some hpending']
    · rw [other hq]
  · rw [order, onlyOwn hmem hbegun]
    exact hhead
  · obtain rfl := onlyOwn hmem (Frame.isBegun_of_isJoining hjoining)
    rw [own, List.mem_singleton] at hmem
    rw [hmem] at hjoining
    exact joining hjoining
  · obtain rfl := onlyOwn hmem (Frame.isBegun_of_hasJoined hjoined)
    rw [own, List.mem_singleton] at hmem
    rw [hmem] at hjoined
    cases decision with
    | onFirstObserverRegistered => exact first rfl
    | onLastObserverUnregistered =>
        rw [last rfl, hjoined]
        rfl
  · obtain ⟨started, halternates, -, -⟩ := h.alternates
    rw [order, helper]
    refine ⟨started, halternates, ?_⟩
    rw [horder] at halternates
    cases decision with
    | onFirstObserverRegistered =>
        obtain ⟨rfl, -⟩ := halternates
        refine ⟨fun hc => ?_, nofun⟩
        rw [first rfl] at hc
        cases hc
    | onLastObserverUnregistered =>
        obtain ⟨rfl, -⟩ := halternates
        refine ⟨fun _ => rfl, fun _ => ?_⟩
        cases hjoined : frame'.hasJoined with
        | true => exact .inr ⟨party, frame', own ▸ List.mem_singleton_self frame', hjoined⟩
        | false =>
            rw [last rfl, hjoined]
            exact .inl rfl

/-- The oldest decision has been carried out.  The observer thread may be new. -/
theorem Inv.return {s s' : Blocking T O} (h : s.Inv) {party : Option T} {frame : Frame O}
    {decision : Decision} (hhead : s.order.head?.map Prod.fst = some party)
    (hframes : s.frames party = [frame]) (hpending : frame.pending = some decision)
    (own : s'.frames party = [])
    (other : ∀ q, q ≠ party → s'.frames q = s.frames q ∨
      q = none ∧ s.frames q = [] ∧ s'.frames q = [.checking])
    (locks : s'.Locks) (notAborted : s'.aborted = s.aborted) (helper : s'.helper = s.helper)
    (order : s'.order = s.order.erase (party, decision))
    (joinable : s'.joinable = decide (decision = .onFirstObserverRegistered)) : s'.Inv := by
  obtain ⟨tail, horder, hnone⟩ := h.head hframes hpending hhead
  rw [horder, List.erase_cons_head] at order
  -- the call that returns was the only one in progress
  have nobody {q : Option T} {next : Frame O} (hmem : next ∈ s'.frames q)
      (hbegun : next.isBegun = true) : False := by
    by_cases hq : q = party
    · rw [hq, own] at hmem
      cases hmem
    · rcases other q hq with hsame | ⟨-, -, hnew⟩
      · rw [hsame] at hmem
        exact hq (h.only hhead hmem hbegun)
      · rw [hnew, List.mem_singleton] at hmem
        rw [hmem] at hbegun
        cases hbegun
  refine ⟨locks, notAborted.trans h.notAborted, fun q => ?_, fun q => ?_,
    fun _ _ hmem hbegun => (nobody hmem hbegun).elim,
    fun _ _ hmem hjoining => (nobody hmem (Frame.isBegun_of_isJoining hjoining)).elim,
    fun _ _ hmem hjoined => (nobody hmem (Frame.isBegun_of_hasJoined hjoined)).elim, ?_⟩
  · rw [helper]
    by_cases hq : q = party
    · rw [hq, own]
      trivial
    · rcases other q hq with hsame | ⟨rfl, -, hnew⟩
      · rw [hsame]
        exact h.stacked q
      · rw [hnew]
        exact ⟨⟨rfl, rfl⟩, trivial⟩
  · rw [order]
    by_cases hq : q = party
    · rw [hq, own, hnone]
      rfl
    · have whole := h.pending q
      rw [horder, decisionsOf_cons_of_ne hq] at whole
      rw [← whole]
      rcases other q hq with hsame | ⟨-, hold, hnew⟩
      · rw [hsame]
      · rw [hold, hnew]
        rfl
  · obtain ⟨started, halternates, -, -⟩ := h.alternates
    rw [horder] at halternates
    rw [order, helper, joinable]
    cases decision with
    | onFirstObserverRegistered => exact ⟨true, halternates.2, fun _ => rfl, fun _ => .inl rfl⟩
    | onLastObserverUnregistered => exact ⟨false, halternates.2, nofun, nofun⟩

/-- A thread goes on outside the calls of the delegate, and `_observers` stays as it is. -/
theorem Inv.moves {s s' : Blocking T O} (h : s.Inv) {party : Option T} {frames : List (Frame O)}
    (goes : s'.frames = Function.update s.frames party frames) (locks : s'.Locks)
    (notAborted : s'.aborted = s.aborted) (helper : s'.helper = s.helper)
    (order : s'.order = s.order) (shouldTerminate : s'.shouldTerminate = s.shouldTerminate)
    (joinable : s'.joinable = s.joinable) (stacked : Stacked party s.helper frames)
    (pending : frames.filterMap Frame.pending = (s.frames party).filterMap Frame.pending)
    (begun : ∀ frame, frame.isBegun = true → (frame ∈ frames ↔ frame ∈ s.frames party)) :
    s'.Inv := by
  refine h.same locks (notAborted.trans h.notAborted) (fun q => ?_) (fun q => ?_)
    (fun q frame hbegun => ?_) ⟨[], order.trans (List.append_nil _).symm⟩ shouldTerminate joinable
    fun started halternates => ?_
  · rw [goes, helper]
    by_cases hq : q = party
    · rw [hq, Function.update_self]
      exact stacked
    · rw [Function.update_of_ne hq]
      exact h.stacked q
  · rw [goes, order, ← h.pending q]
    by_cases hq : q = party
    · rw [hq, Function.update_self, pending]
    · rw [Function.update_of_ne hq]
  · rw [goes]
    by_cases hq : q = party
    · rw [hq, Function.update_self]
      exact begun frame hbegun
    · rw [Function.update_of_ne hq]
  · rw [order, helper]
    exact halternates

omit [DecidableEq T] [DecidableEq O] in
theorem mem_cons_of_begun {frame first : Frame O} {rest : List (Frame O)}
    (hbegun : frame.isBegun = true) (hfirst : first.isBegun = false) :
    frame ∈ first :: rest ↔ frame ∈ rest := by
  refine ⟨fun hmem => ?_, List.mem_cons_of_mem first⟩
  rcases List.mem_cons.mp hmem with rfl | hmem
  · cases hbegun.symm.trans hfirst
  · exact hmem

/-- The frame gives way to another one, both outside the calls of the delegate. -/
theorem Inv.replace {s s' : Blocking T O} (h : s.Inv) {party : Option T} {frame frame' : Frame O}
    {rest : List (Frame O)} (hframes : s.frames party = frame :: rest)
    (goes : s'.frames = Function.update s.frames party (frame' :: rest)) (locks : s'.Locks)
    (notAborted : s'.aborted = s.aborted) (helper : s'.helper = s.helper)
    (order : s'.order = s.order) (shouldTerminate : s'.shouldTerminate = s.shouldTerminate)
    (joinable : s'.joinable = s.joinable) (fits : frame'.Fits party s.helper rest)
    (pending : frame.pending = none) (pending' : frame'.pending = none)
    (begun : frame.isBegun = false) (begun' : frame'.isBegun = false) : s'.Inv := by
  refine h.moves goes locks notAborted helper order shouldTerminate joinable ⟨fits, ?_⟩ ?_
    fun next hnext => ?_
  · have stacked := h.stacked party
    rw [hframes] at stacked
    exact stacked.2
  · rw [hframes, List.filterMap_cons_none pending, List.filterMap_cons_none pending']
  · rw [hframes, mem_cons_of_begun hnext begun', mem_cons_of_begun hnext begun]

/-- The lock is taken for a call. -/
theorem Inv.enter {s : Blocking T O} (h : s.Inv) {party : Option T} {call : ApiCall O}
    {rest : List (Frame O)} {lock : RecursiveMutex (Option T)}
    (hframes : s.frames party = .locking (.call call) :: rest)
    (hlock : s.lock.lock party = some lock)
    (locks : (s.enter party rest lock (.call call)).Locks) :
    (s.enter party rest lock (.call call)).Inv := by
  have stacked := h.stacked party
  rw [hframes] at stacked
  obtain ⟨fits, hrest⟩ := stacked
  obtain ⟨hstarts, hquiet⟩ := id fits
  obtain ⟨hsame, hdecides⟩ := body_spec s.helper call
  have own : (s.enter party rest lock (.call call)).frames party =
      .working (.call call) (call.body s.helper).2 :: rest := s.frames_goes party _
  have other {q : Option T} (hq : q ≠ party) :
      (s.enter party rest lock (.call call)).frames q = s.frames q := Function.update_of_ne hq ..
  refine h.same locks h.notAborted (fun q => ?_) (fun q => ?_) (fun q frame hbegun => ?_) ⟨_, rfl⟩
    rfl rfl fun started halternates => ?_
  · by_cases hq : q = party
    · rw [hq, own]
      refine ⟨⟨hstarts, hquiet⟩, ?_⟩
      by_cases hnil : rest = []
      · rw [hnil]
        trivial
      · exact hrest.below (hsame (hquiet hnil)) fits.below
    · rw [other hq]
      refine (h.stacked q).other _ ?_
      rw [← h.locks.lock]
      exact (RecursiveMutex.acquisitions_lock hlock).2 q hq
  · change _ = decisionsOf (s.order ++ _) q
    rw [decisionsOf_append, ← h.pending q]
    by_cases hq : q = party
    · subst hq
      rw [own, hframes]
      cases hdecision : (call.body s.helper).2 with
      | none => exact (List.append_nil _).symm
      | some decision =>
          -- a call made in a callback decides nothing
          have hnil : rest = [] := by
            by_contra hc
            cases hdecision.symm.trans (hquiet hc)
          rw [hnil]
          exact (decisionsOf_cons_self q decision []).symm
    · rw [other hq]
      cases (call.body s.helper).2 with
      | none => exact (List.append_nil _).symm
      | some decision =>
          have nothing : decisionsOf [(party, decision)] q = [] :=
            decisionsOf_cons_of_ne hq decision []
          exact (congrArg _ nothing).trans (List.append_nil _) |>.symm
  · by_cases hq : q = party
    · rw [hq, own, hframes, mem_cons_of_begun hbegun rfl, mem_cons_of_begun hbegun rfl]
    · rw [other hq]
  · change Alternates started ((s.order ++ _).map Prod.snd) (hasObserver (call.body s.helper).1)
    rw [List.map_append]
    cases hdecision : (call.body s.helper).2 with
    | none =>
        rw [hsame hdecision]
        exact (List.append_nil (s.order.map Prod.snd)).symm ▸ halternates
    | some decision => exact hdecides decision hdecision halternates

/-- The lock is released, and the table replaced. -/
theorem Inv.leave {s : Blocking T O} (h : s.Inv) {party : Option T} {newList : Interfaces}
    {rest : List (Frame O)} {lock : RecursiveMutex (Option T)}
    (hframes : s.frames party = .working (.newList newList) none :: rest)
    (locks : (s.leave party rest none lock (.newList newList)).Locks) :
    (s.leave party rest none lock (.newList newList)).Inv := by
  have stacked := h.stacked party
  rw [hframes] at stacked
  have observers : (s.helper.onNewInterfacesList newList).observers = s.helper.observers := by
    rw [Helper.onNewInterfacesList_eq]
    exact Helper.observers_notifyAll ..
  have hsame : hasObserver (s.helper.onNewInterfacesList newList) = hasObserver s.helper := by
    rw [hasObserver, observers]
    rfl
  have own : (s.leave party rest none lock (.newList newList)).frames party = rest :=
    s.frames_goes party _
  have other {q : Option T} (hq : q ≠ party) :
      (s.leave party rest none lock (.newList newList)).frames q = s.frames q :=
    Function.update_of_ne hq ..
  have held : 0 < s.lock.acquisitions party := by
    rw [h.locks.lock, hframes, depth_working]
    exact Nat.succ_pos _
  refine h.same locks h.notAborted (fun q => ?_) (fun q => ?_) (fun q frame hbegun => ?_)
    ⟨[], (List.append_nil _).symm⟩ rfl rfl fun started halternates => ?_
  · by_cases hq : q = party
    · rw [hq, own]
      exact stacked.2.below hsame stacked.1.below
    · rw [other hq]
      refine (h.stacked q).other _ ?_
      rw [← h.locks.lock]
      -- no other thread is inside: the lock is held here
      by_contra hc
      exact hq (RecursiveMutex.eq_of_acquisitions held (Nat.pos_of_ne_zero hc))
  · refine Eq.trans ?_ (h.pending q)
    by_cases hq : q = party
    · rw [hq, own, hframes]
      rfl
    · rw [other hq]
  · by_cases hq : q = party
    · rw [hq, own, hframes, mem_cons_of_begun hbegun rfl]
    · rw [other hq]
  · change Alternates started (s.order.map Prod.snd)
      (hasObserver (s.helper.onNewInterfacesList newList))
    rw [hsame]
    exact halternates

theorem Inv.run {s s' : Blocking T O} (h : s.Inv) {party : Option T} {due : Bool} {frame : Frame O}
    {rest : List (Frame O)} (hframes : s.frames party = frame :: rest)
    (horderly : frame.isEntering = true → s.order.head?.map Prod.fst = some party)
    (hrun : s.run party due rest frame = some s') : s'.Inv := by
  have locks : s'.Locks := h.locks.effect hframes (effect_of_run hrun)
  have stacked := h.stacked party
  rw [hframes] at stacked
  obtain ⟨fits, hrest⟩ := stacked
  -- a frame of a call of the delegate is alone
  have turn (hbegun : frame.isBegun = true) : s.order.head?.map Prod.fst = some party :=
    h.turn party frame (hframes ▸ List.mem_cons_self) hbegun
  have mem : frame ∈ s.frames party := hframes ▸ List.mem_cons_self
  cases frame with
  | testing call =>
      obtain rfl := Option.some.inj hrun
      obtain ⟨hstarts, hwaits, hquiet⟩ := fits
      split at locks
      · rw [if_pos ‹_›]
        exact h.replace hframes rfl locks rfl rfl rfl rfl rfl ⟨hstarts, hquiet⟩ rfl rfl rfl rfl
      · rw [if_neg ‹_›]
        exact h.replace hframes rfl locks rfl rfl rfl rfl rfl ⟨hstarts, hwaits, hquiet⟩
          rfl rfl rfl rfl
  | refreshing call =>
      obtain rfl := Option.some.inj hrun
      refine h.moves rfl locks rfl rfl rfl rfl rfl ⟨trivial, fits, hrest⟩ ?_ fun next hnext => ?_
      · rw [hframes]
        rfl
      · rw [hframes, mem_cons_of_begun hnext rfl, mem_cons_of_begun hnext rfl,
          mem_cons_of_begun hnext rfl]
  | setEnumerated call =>
      obtain rfl := Option.some.inj hrun
      obtain ⟨hstarts, hwaits, hquiet⟩ := fits
      exact h.replace hframes rfl locks rfl rfl rfl rfl rfl ⟨hstarts, hquiet⟩ rfl rfl rfl rfl
  | locking work =>
      obtain ⟨lock, hlock, rfl⟩ := Option.map_eq_some_iff.mp hrun
      cases work with
      | call call => exact h.enter hframes hlock locks
      | newList newList =>
          exact h.replace hframes rfl locks rfl rfl rfl rfl rfl ⟨fits, rfl⟩ rfl rfl rfl rfl
  | working work decision =>
      obtain ⟨lock, hlock, rfl⟩ := Option.map_eq_some_iff.mp hrun
      cases work with
      | call call =>
          obtain ⟨hstarts, hquiet⟩ := fits
          cases decision with
          | none =>
              refine h.moves rfl locks rfl rfl rfl rfl rfl hrest ?_ fun next hnext => ?_
              · rw [hframes]
                rfl
              · rw [hframes]
                exact (mem_cons_of_begun hnext rfl).symm
          | some decision =>
              have hnil : rest = [] := by
                by_contra hc
                cases hquiet hc
              subst hnil
              cases decision with
              | onFirstObserverRegistered =>
                  refine h.moves rfl locks rfl rfl rfl rfl rfl ⟨⟨rfl, hstarts⟩, trivial⟩ ?_
                    fun next hnext => ?_
                  · rw [hframes]
                    rfl
                  · rw [hframes, mem_cons_of_begun hnext rfl]
                    exact mem_cons_of_begun hnext rfl
              | onLastObserverUnregistered =>
                  refine h.moves rfl locks rfl rfl rfl rfl rfl ⟨⟨rfl, hstarts⟩, trivial⟩ ?_
                    fun next hnext => ?_
                  · rw [hframes]
                    rfl
                  · rw [hframes, mem_cons_of_begun hnext rfl]
                    exact mem_cons_of_begun hnext rfl
      | newList newList =>
          obtain ⟨-, rfl⟩ := fits
          exact h.leave hframes locks
  | clearTerminate =>
      obtain ⟨rfl, hparty⟩ := fits
      obtain rfl := Option.some.inj hrun
      have hhead := horderly rfl
      obtain ⟨order, horder, -⟩ := h.head hframes rfl hhead
      exact h.carry hhead hframes rfl rfl rfl ⟨rfl, hparty⟩ locks rfl rfl rfl
        (fun _ => h.stopped_of_first horder) (by rintro ⟨⟩) (by rintro ⟨⟩)
  | createThread =>
      obtain ⟨rfl, hparty⟩ := fits
      have hhead := turn rfl
      obtain ⟨order, horder, -⟩ := h.head hframes rfl hhead
      have stopped := h.stopped_of_first horder
      rw [Blocking.run, stopped] at hrun
      obtain rfl := Option.some.inj hrun
      refine h.return hhead hframes rfl ?_ (fun q hq => ?_) locks rfl rfl rfl rfl
      · exact (Function.update_of_ne hparty ..).trans (s.frames_goes party [])
      · by_cases hnone : q = none
        · subst hnone
          exact .inr ⟨rfl, h.locks.stopped stopped,
            (s.returns party .onFirstObserverRegistered []).frames_goes none [.checking]⟩
        · exact .inl ((Function.update_of_ne hnone ..).trans (Function.update_of_ne hq ..))
  | setTerminate =>
      obtain ⟨rfl, hparty⟩ := fits
      obtain rfl := Option.some.inj hrun
      have hhead := horderly rfl
      obtain ⟨order, horder, -⟩ := h.head hframes rfl hhead
      have runs := h.running_of_last horder hframes rfl
      exact h.carry hhead hframes rfl rfl rfl ⟨rfl, hparty⟩ locks rfl rfl rfl (by rintro ⟨⟩)
        (fun _ => runs) fun _ => ⟨rfl, runs⟩
  | joinable =>
      obtain ⟨rfl, hparty⟩ := fits
      have terminates := h.joining party .joinable mem rfl
      rw [Blocking.run, if_pos terminates.2] at hrun
      obtain rfl := Option.some.inj hrun
      exact h.carry (turn rfl) hframes rfl rfl rfl ⟨rfl, hparty⟩ locks rfl rfl rfl (by rintro ⟨⟩)
        (fun _ => terminates.2) fun _ => terminates
  | join =>
      obtain ⟨rfl, hparty⟩ := fits
      have terminates := h.joining party .join mem rfl
      have joins : ¬ (s.joinable = false ∨ party = none) := by
        rw [terminates.2]
        exact fun hc => hc.elim (by rintro ⟨⟩) hparty
      rw [Blocking.run, if_neg joins] at hrun
      obtain ⟨-, heq⟩ := Option.ite_none_right_eq_some.mp hrun
      obtain rfl := Option.some.inj heq
      exact h.carry (turn rfl) hframes rfl rfl rfl ⟨rfl, hparty⟩ locks rfl rfl rfl (by rintro ⟨⟩)
        (fun _ => rfl) (by rintro ⟨⟩)
  | resetThread =>
      obtain ⟨rfl, hparty⟩ := fits
      have stopped := h.joined party .resetThread mem rfl
      rw [Blocking.run, stopped] at hrun
      obtain rfl := Option.some.inj hrun
      exact h.carry (turn rfl) hframes rfl rfl rfl ⟨rfl, hparty⟩ locks rfl rfl rfl (by rintro ⟨⟩)
        (fun _ => stopped) (by rintro ⟨⟩)
  | clearEnumerated =>
      obtain ⟨rfl, hparty⟩ := fits
      obtain rfl := Option.some.inj hrun
      have stopped := h.joined party .clearEnumerated mem rfl
      exact h.return (turn rfl) hframes rfl (s.frames_goes party [])
        (fun q hq => .inl (Function.update_of_ne hq ..)) locks rfl rfl rfl stopped
  | checking =>
      obtain ⟨rfl, hparty⟩ := fits
      rw [Blocking.run] at hrun
      split at hrun
      · obtain rfl := Option.some.inj hrun
        refine h.moves rfl locks rfl rfl rfl rfl rfl trivial ?_ fun next hnext => ?_
        · rw [hframes]
          rfl
        · rw [hframes, mem_cons_of_begun hnext rfl]
      · split at hrun
        · obtain rfl := Option.some.inj hrun
          exact h.replace hframes rfl locks rfl rfl rfl rfl rfl ⟨rfl, hparty⟩ rfl rfl rfl rfl
        · obtain rfl := Option.some.inj hrun
          exact h.replace hframes rfl locks rfl rfl rfl rfl rfl ⟨rfl, hparty⟩ rfl rfl rfl rfl
  | polling =>
      obtain rfl := Option.some.inj hrun
      refine h.moves rfl locks rfl rfl rfl rfl rfl ⟨trivial, fits, hrest⟩ ?_ fun next hnext => ?_
      · rw [hframes]
        rfl
      · rw [hframes, mem_cons_of_begun hnext rfl, mem_cons_of_begun hnext rfl,
          mem_cons_of_begun hnext rfl]

omit [DecidableEq T] in
/-- A call begins. -/
theorem stacked_begin {party : Option T} {helper : Helper O} {call : ApiCall O}
    {rest : List (Frame O)} (h : Stacked party helper rest) (hstarts : Starts party rest)
    (hquiet : rest ≠ [] → (call.body helper).2 = none) :
    Stacked party helper (begin call ++ rest) := by
  cases call with
  | enumerateInterfaces onInterface =>
      cases onInterface with
      | true => exact ⟨⟨hstarts, rfl, hquiet⟩, h⟩
      | false => exact h
  | getInterfaceByName | registerObserver => exact ⟨⟨hstarts, rfl, hquiet⟩, h⟩
  | unregisterObserver => exact ⟨⟨hstarts, hquiet⟩, h⟩

omit [DecidableEq T] [DecidableEq O] in
theorem pending_begin (call : ApiCall O) (rest : List (Frame O)) :
    (begin call ++ rest).filterMap Frame.pending = rest.filterMap Frame.pending := by
  cases call with
  | enumerateInterfaces onInterface => cases onInterface <;> rfl
  | getInterfaceByName | registerObserver | unregisterObserver => rfl

omit [DecidableEq T] [DecidableEq O] in
theorem mem_begin_of_begun {frame : Frame O} (call : ApiCall O) {rest : List (Frame O)}
    (hbegun : frame.isBegun = true) : frame ∈ begin call ++ rest ↔ frame ∈ rest := by
  cases call with
  | enumerateInterfaces onInterface =>
      cases onInterface with
      | true => exact mem_cons_of_begun hbegun rfl
      | false => rfl
  | getInterfaceByName | registerObserver | unregisterObserver => exact mem_cons_of_begun hbegun rfl

/-- **One step** keeps the invariant. -/
theorem Inv.next {s s' : Blocking T O} {event : Event T O} (h : s.Inv)
    (hstep : Meeting Orderly (Steps Blocking.next) s event s') : s'.Inv := by
  obtain ⟨horderly, hnext⟩ := hstep
  have locks : s'.Locks := h.locks.next hnext
  obtain ⟨-, hevent⟩ := Option.ite_none_left_eq_some.mp hnext
  cases event with
  | systemChanges interfaces =>
      obtain rfl := Option.some.inj hevent
      exact ⟨locks, h.notAborted, h.stacked, h.pending, h.turn, h.joining, h.joined, h.alternates⟩
  | call t call =>
      dsimp only at hevent
      split at hevent
      · rename_i hframes
        obtain rfl := Option.some.inj hevent
        rw [← List.append_nil (begin call)] at locks ⊢
        refine h.moves rfl locks rfl rfl rfl rfl rfl ?_ ?_ fun frame hbegun => ?_
        · exact stacked_begin trivial (Option.some_ne_none t) fun hc => absurd rfl hc
        · rw [pending_begin, hframes]
        · rw [mem_begin_of_begun call hbegun, hframes]
      · cases hevent
  | callback party call =>
      dsimp only at hevent
      split at hevent
      · rename_i work decision rest hframes
        obtain ⟨-, heq⟩ := Option.ite_none_right_eq_some.mp hevent
        obtain rfl := Option.some.inj heq
        refine h.moves rfl locks rfl rfl rfl rfl rfl ?_ ?_ fun frame hbegun => ?_
        · exact stacked_begin (hframes ▸ h.stacked party) rfl fun _ => horderly
        · rw [pending_begin, hframes]
        · rw [mem_begin_of_begun call hbegun, hframes]
      · cases hevent
  | advance party due =>
      obtain ⟨frame, rest, hframes, hrun⟩ := run_of_advance hnext
      refine h.run hframes (fun hentering => horderly ?_) hrun
      rw [hframes]
      exact hentering

theorem inv_of_reaches {system : Interfaces} {s : Blocking T O}
    (h : Reaches (Meeting Orderly (Steps next)) { system := system } s) : s.Inv := by
  have start : Inv ({ system := system } : Blocking T O) :=
    ⟨⟨fun _ => rfl, fun hc => absurd rfl hc⟩, rfl, fun _ => trivial, fun _ => rfl, nofun, nofun,
      nofun, false, rfl, nofun, nofun⟩
  exact h.invariant (fun _ _ _ ha hab => ha.next hab) start

end

end Blocking

end NetworkInterface
