import NetworkInterface.Monitor.Orderly

/-!
# Monitor — Progress

No call of the helper with a polling delegate is stuck, in orderly runs.  Wherever such a run
stands, the threads can go on until a given call has returned (`returns_of_reaches`): whoever has
the lock releases it (`Inv.exists_free`), the observer thread ends once it is told to
(`Inv.exists_ended`), and the decisions are carried out, the oldest one first
(`Inv.exists_drained`).
-/

namespace NetworkInterface

open Support Runs LifeCycle

namespace Blocking

section
variable {T O : Type*} [DecidableEq T] [DecidableEq O]

/-! ### Going on -/

/-- A thread goes on. -/
def Goes (s : Blocking T O) (step : Option T × Bool) (s' : Blocking T O) : Prop :=
  Meeting Orderly (Steps Blocking.next) s (.advance step.1 step.2) s'

theorem Inv.reaches {s s' : Blocking T O} (h : s.Inv) (hreach : Reaches Goes s s') : s'.Inv :=
  hreach.invariant (fun _ _ _ ha hab => ha.next hab) h

/-- A thread that has the lock, or finds it free, can go on unless it has to join. -/
theorem Inv.exists_run {s : Blocking T O} (h : s.Inv) {party : Option T} {frame : Frame O}
    {rest : List (Frame O)} (hframes : s.frames party = frame :: rest)
    (hlock : 0 < s.lock.acquisitions party ∨ s.lock = .free) (hjoin : frame ≠ .join) :
    ∃ s', s.run party true rest frame = some s' := by
  cases frame with
  | testing | refreshing | setEnumerated | clearTerminate | setTerminate | joinable
  | clearEnumerated | checking | polling => exact ⟨_, rfl⟩
  | locking work =>
      rcases hlock with held | free
      · obtain ⟨lock, hlock⟩ :=
          Option.isSome_iff_exists.mp (RecursiveMutex.isSome_lock_unlock held).1
        exact ⟨_, congrArg (Option.map _) hlock⟩
      · rw [Blocking.run, free]
        exact ⟨_, rfl⟩
  | working work decision =>
      have held : 0 < s.lock.acquisitions party := by
        rw [h.locks.lock, hframes, depth_working]
        exact Nat.succ_pos _
      obtain ⟨lock, hlock⟩ :=
        Option.isSome_iff_exists.mp (RecursiveMutex.isSome_lock_unlock held).2
      exact ⟨_, congrArg (Option.map _) hlock⟩
  | createThread | resetThread =>
      rw [Blocking.run]
      split
      · exact ⟨_, rfl⟩
      · exact ⟨_, rfl⟩
  | join => exact absurd rfl hjoin

theorem Inv.goes {s s' : Blocking T O} (h : s.Inv) {party : Option T} {frame : Frame O}
    {rest : List (Frame O)} (hframes : s.frames party = frame :: rest)
    (hturn : frame.isEntering = true → s.order.head?.map Prod.fst = some party)
    (hrun : s.run party true rest frame = some s') : Goes s (party, true) s' := by
  refine ⟨fun hentering => hturn ?_, next_advance true h.notAborted hframes hrun⟩
  rw [hframes] at hentering
  exact hentering

/-- How much a frame still has to do. -/
def Frame.weight : Frame O → Nat
  | .testing _      => 17
  | .refreshing _   => 16
  | .setEnumerated _ => 8
  | .locking _      => 7
  | .working ..     => 6
  | .setTerminate   => 5
  | .joinable       => 4
  | .join           => 3
  | .resetThread    => 2
  | .clearEnumerated => 1
  | .clearTerminate => 2
  | .createThread   => 1
  | .polling        => 9
  | .checking       => 1

/-- How much a thread still has to do. -/
def weight (frames : List (Frame O)) : Nat := (frames.map Frame.weight).sum

omit [DecidableEq T] [DecidableEq O] in
theorem weight_cons (frame : Frame O) (rest : List (Frame O)) :
    weight (frame :: rest) = frame.weight + weight rest := List.sum_cons

omit [DecidableEq T] [DecidableEq O] in
theorem weight_pos {frames : List (Frame O)} (h : frames ≠ []) : 0 < weight frames := by
  obtain ⟨frame, rest, rfl⟩ := List.exists_cons_of_ne_nil h
  have pos : 0 < frame.weight := by
    cases frame <;> exact Nat.succ_pos _
  rw [weight_cons]
  exact Nat.add_pos_left pos _

omit [DecidableEq T] [DecidableEq O] in
theorem weight_after (work : Work O) (decision : Option Decision) (rest : List (Frame O)) :
    weight (after decision ++ rest) < weight (.working work decision :: rest) := by
  cases decision with
  | none => simp [after, weight_cons, Frame.weight]
  | some decision =>
      cases decision with
      | onFirstObserverRegistered | onLastObserverUnregistered =>
          simp [after, weight_cons, Frame.weight]

/-- A thread that goes on has less to do; the observer thread, once it is told to terminate. -/
theorem Inv.weight_run {s s' : Blocking T O} (h : s.Inv) {party : Option T} {due : Bool}
    {frame : Frame O} {rest : List (Frame O)} (hframes : s.frames party = frame :: rest)
    (hrun : s.run party due rest frame = some s') (hrunning : s'.aborted = false)
    (hterminates : frame = .checking → s.shouldTerminate = true) :
    weight (s'.frames party) < weight (s.frames party) := by
  have stacked := h.stacked party
  rw [hframes] at stacked ⊢
  have fits := stacked.1
  -- the frame gives way to nothing, to one frame or to two, which weigh less
  have goes {frames : List (Frame O)} {s' : Blocking T O}
      (hgoes : s'.frames = Function.update s.frames party frames)
      (hlt : weight frames < weight (frame :: rest)) :
      weight (s'.frames party) < weight (frame :: rest) := by
    rw [hgoes, Function.update_self]
    exact hlt
  have replaces {frame' : Frame O} (hlt : frame'.weight < frame.weight) :
      weight (frame' :: rest) < weight (frame :: rest) := by
    rw [weight_cons, weight_cons]
    exact Nat.add_lt_add_right hlt _
  have ends (hpos : 0 < frame.weight) : weight rest < weight (frame :: rest) := by
    rw [weight_cons]
    exact Nat.lt_add_of_pos_left hpos
  have adds {first second : Frame O} (hlt : first.weight + second.weight < frame.weight) :
      weight (first :: second :: rest) < weight (frame :: rest) := by
    rw [weight_cons, weight_cons, weight_cons, ← Nat.add_assoc]
    exact Nat.add_lt_add_right hlt _
  cases frame with
  | testing call =>
      obtain rfl := Option.some.inj hrun
      refine goes rfl ?_
      split
      · exact replaces (by simp [Frame.weight])
      · exact replaces (by simp [Frame.weight])
  | refreshing call =>
      obtain rfl := Option.some.inj hrun
      exact goes rfl (adds (by simp [Frame.weight]))
  | setEnumerated call =>
      obtain rfl := Option.some.inj hrun
      exact goes rfl (replaces (by simp [Frame.weight]))
  | locking work =>
      obtain ⟨lock, hlock, rfl⟩ := Option.map_eq_some_iff.mp hrun
      cases work with
      | call | newList => exact goes rfl (replaces (by simp [Frame.weight]))
  | working work decision =>
      obtain ⟨lock, hlock, rfl⟩ := Option.map_eq_some_iff.mp hrun
      cases work with
      | call | newList => exact goes rfl (weight_after _ decision rest)
  | clearTerminate =>
      obtain rfl := Option.some.inj hrun
      exact goes rfl (replaces (by simp [Frame.weight]))
  | createThread =>
      rw [Blocking.run] at hrun
      split at hrun
      · obtain rfl := Option.some.inj hrun
        cases hrunning
      · obtain rfl := Option.some.inj hrun
        -- the frames that are new are the other thread's
        have client := (s.returns party .onFirstObserverRegistered rest).frames_goes_of_ne fits.2
          [.checking]
        change weight (((s.returns party .onFirstObserverRegistered rest).goes none
          [.checking]).frames party) < _
        rw [client, frames_returns]
        exact ends (by simp [Frame.weight])
  | setTerminate =>
      obtain rfl := Option.some.inj hrun
      exact goes rfl (replaces (by simp [Frame.weight]))
  | joinable =>
      obtain rfl := Option.some.inj hrun
      split
      · exact goes rfl (replaces (by simp [Frame.weight]))
      · exact goes rfl (ends (by simp [Frame.weight]))
  | join =>
      rw [Blocking.run] at hrun
      split at hrun
      · obtain rfl := Option.some.inj hrun
        cases hrunning
      · obtain ⟨-, heq⟩ := Option.ite_none_right_eq_some.mp hrun
        obtain rfl := Option.some.inj heq
        exact goes rfl (replaces (by simp [Frame.weight]))
  | resetThread =>
      rw [Blocking.run] at hrun
      split at hrun
      · obtain rfl := Option.some.inj hrun
        cases hrunning
      · obtain rfl := Option.some.inj hrun
        exact goes rfl (replaces (by simp [Frame.weight]))
  | clearEnumerated =>
      obtain rfl := Option.some.inj hrun
      exact goes rfl (ends (by simp [Frame.weight]))
  | checking =>
      -- not told to terminate, it could begin a poll, which weighs more
      rw [Blocking.run, if_pos (hterminates rfl)] at hrun
      obtain rfl := Option.some.inj hrun
      exact goes rfl (ends (by simp [Frame.weight]))
  | polling =>
      obtain rfl := Option.some.inj hrun
      exact goes rfl (adds (by simp [Frame.weight]))

omit [DecidableEq O] in
/-- A thread that goes on leaves the frames of the others alone, but may create the observer
thread. -/
theorem frames_of_run {s s' : Blocking T O} {party q : Option T} {frame : Frame O}
    {rest : List (Frame O)} (heffect : Effect s party frame rest s') (hne : q ≠ party)
    (hcreate : q ≠ none ∨ frame ≠ .createThread) : s'.frames q = s.frames q := by
  cases heffect with
  | quiet frames goes depth lock joinable => rw [goes, Function.update_of_ne hne]
  | lock frames goes depth lock joinable => rw [goes, Function.update_of_ne hne]
  | unlock frames goes depth lock joinable => rw [goes, Function.update_of_ne hne]
  | create creates goes depth lock stopped joinable =>
      rw [goes, Function.update_of_ne (hcreate.resolve_right (not_not_intro creates)),
        Function.update_of_ne hne]
  | join frames goes depth lock ended other => rw [goes, Function.update_of_ne hne]
  | abort aborts => rw [aborts]; rfl

/-- What is left to a client to do only gets less while the threads go on. -/
theorem Inv.weight_le {s s' : Blocking T O} (h : s.Inv) (t : T) (hreach : Reaches Goes s s') :
    weight (s'.frames (some t)) ≤ weight (s.frames (some t)) := by
  induction hreach with
  | refl => exact Nat.le_refl _
  | @tail s₁ s₂ h₁ hlast ih =>
      refine Nat.le_trans ?_ ih
      obtain ⟨⟨party, due⟩, horderly, hnext⟩ := hlast
      have inv₁ : s₁.Inv := h.reaches h₁
      have inv₂ : s₂.Inv := inv₁.next ⟨horderly, hnext⟩
      obtain ⟨frame, rest, hframes, hrun⟩ := run_of_advance hnext
      by_cases ht : some t = party
      · subst ht
        refine (inv₁.weight_run hframes hrun inv₂.notAborted ?_).le
        rintro rfl
        have stacked := inv₁.stacked (some t)
        rw [hframes] at stacked
        cases stacked.1.2
      · rw [frames_of_run (effect_of_run hrun) ht (.inl (Option.some_ne_none t))]

omit [DecidableEq T] in
/-- Under the lock, no frame of a call of the delegate is on top, and no loop of the observer
thread. -/
theorem Stacked.top {party : Option T} {helper : Helper O} {frame : Frame O} {rest : List (Frame O)}
    (h : Stacked party helper (frame :: rest)) (hdepth : 0 < depth (frame :: rest)) :
    frame.isDeciding = false ∧ frame ≠ .checking := by
  have alone (hrest : rest = []) (hworking : frame.isWorking = false) : False := by
    rw [hrest, depth, List.countP_singleton, hworking] at hdepth
    cases hdepth
  have fits := h.1
  cases frame with
  | testing | refreshing | setEnumerated | locking | working | polling => exact ⟨rfl, nofun⟩
  | clearTerminate | createThread | setTerminate | joinable | join | resetThread | clearEnumerated
  | checking => exact (alone fits.1 rfl).elim

omit [DecidableEq T] [DecidableEq O] in
theorem Frame.exists_pending {frame : Frame O} (h : frame.isDeciding = true) :
    ∃ decision, frame.pending = some decision := by
  cases frame with
  | clearTerminate | createThread | setTerminate | joinable | join | resetThread
  | clearEnumerated => exact ⟨_, rfl⟩
  | testing | refreshing | setEnumerated | locking | working | checking | polling => cases h

omit [DecidableEq T] [DecidableEq O] in
theorem Frame.ne_of_outside {frame : Frame O} (h : frame.isDeciding = false) :
    frame ≠ .join ∧ frame ≠ .createThread ∧ frame.isEntering = false := by
  cases frame with
  | testing | refreshing | setEnumerated | locking | working | checking | polling =>
      exact ⟨nofun, nofun, rfl⟩
  | clearTerminate | createThread | setTerminate | joinable | join | resetThread
  | clearEnumerated => cases h

/-- A thread outside the calls of the delegate that has the lock, or finds it free, goes on. -/
theorem Inv.exists_goes {s : Blocking T O} (h : s.Inv) {party : Option T} {frame : Frame O}
    {rest : List (Frame O)} (hframes : s.frames party = frame :: rest)
    (hlock : 0 < s.lock.acquisitions party ∨ s.lock = .free) (hdeciding : frame.isDeciding = false)
    (hterminates : frame = .checking → s.shouldTerminate = true) :
    ∃ s', Goes s (party, true) s' ∧ s'.Inv ∧ s.run party true rest frame = some s' ∧
      weight (s'.frames party) < weight (s.frames party) ∧
      ∀ q ≠ party, s'.frames q = s.frames q := by
  obtain ⟨hjoin, hcreate, hentering⟩ := Frame.ne_of_outside hdeciding
  obtain ⟨s', hrun⟩ := h.exists_run hframes hlock hjoin
  have goes := h.goes hframes (fun hc => absurd (hentering.symm.trans hc) Bool.false_ne_true) hrun
  have h' : s'.Inv := h.next goes
  exact ⟨s', goes, h', hrun, h.weight_run hframes hrun h'.notAborted hterminates, fun q hq =>
    frames_of_run (effect_of_run hrun) hq (.inr hcreate)⟩

/-- Nobody but the thread has the lock. -/
structure OnlyOwner (owner : Option T) (s : Blocking T O) : Prop where
  inv : s.Inv
  others : ∀ q ≠ owner, s.lock.acquisitions q = 0

/-- Whoever has the lock gets closer to releasing it. -/
theorem OnlyOwner.exists_goes {owner : Option T} {s : Blocking T O} (h : OnlyOwner owner s)
    (hheld : s.lock.acquisitions owner ≠ 0) :
    ∃ s', Reaches Goes s s' ∧ OnlyOwner owner s' ∧
      weight (s'.frames owner) < weight (s.frames owner) := by
  have held := Nat.pos_of_ne_zero hheld
  have nested := held
  rw [h.inv.locks.lock] at nested
  cases hframes : s.frames owner with
  | nil =>
      rw [hframes] at nested
      cases nested
  | cons frame rest =>
      have stacked := h.inv.stacked owner
      rw [hframes] at stacked nested
      obtain ⟨hdeciding, hchecking⟩ := stacked.top nested
      obtain ⟨s', goes, inv', -, hlt, same⟩ :=
        h.inv.exists_goes hframes (.inl held) hdeciding fun hc => absurd hc hchecking
      refine ⟨s', .more .refl goes, ⟨inv', fun q hq => ?_⟩, hframes ▸ hlt⟩
      rw [inv'.locks.lock, same q hq, ← h.inv.locks.lock]
      exact h.others q hq

/-- **The lock is released**. -/
theorem Inv.exists_free {s : Blocking T O} (h : s.Inv) :
    ∃ s', Reaches Goes s s' ∧ s'.Inv ∧ s'.lock = .free := by
  cases hlock : s.lock with
  | free => exact ⟨s, .refl, h, hlock⟩
  | held owner more =>
      have start : OnlyOwner owner s := ⟨h, fun q hq => by
        rw [hlock, RecursiveMutex.acquisitions_of_ne hq]⟩
      have closer := fun (s : Blocking T O) (hs : OnlyOwner owner s) => hs.exists_goes
      obtain ⟨s', hreach, h', free⟩ :=
        exists_reaches_of_measure (fun s => weight (s.frames owner)) closer start
      refine ⟨s', hreach, h'.inv, RecursiveMutex.eq_free_of_acquisitions fun q => ?_⟩
      by_cases hq : q = owner
      · rw [hq]
        exact free
      · exact h'.others q hq

/-- What a step of the observer thread leaves alone. -/
theorem Inv.same_of_run {s s' : Blocking T O} (h : s.Inv) {due : Bool} {frame : Frame O}
    {rest : List (Frame O)} (hframes : s.frames none = frame :: rest)
    (hrun : s.run none due rest frame = some s') :
    s'.order = s.order ∧ s'.shouldTerminate = s.shouldTerminate := by
  have stacked := h.stacked none
  rw [hframes] at stacked
  have fits := stacked.1
  cases frame with
  | testing | refreshing | setEnumerated | polling =>
      obtain rfl := Option.some.inj hrun
      exact ⟨rfl, rfl⟩
  | checking =>
      obtain rfl := Option.some.inj hrun
      split <;> exact ⟨rfl, rfl⟩
  | working work decision =>
      obtain ⟨lock, hlock, rfl⟩ := Option.map_eq_some_iff.mp hrun
      cases work with
      | call | newList => exact ⟨rfl, rfl⟩
  | locking work =>
      obtain ⟨lock, hlock, rfl⟩ := Option.map_eq_some_iff.mp hrun
      cases work with
      | newList => exact ⟨rfl, rfl⟩
      | call call =>
          -- it is in a callback, and decides nothing
          have nested : rest ≠ [] := by
            rintro rfl
            exact fits.1 rfl
          refine ⟨?_, rfl⟩
          change s.order ++ Option.toList (Option.map _ (call.body s.helper).2) = s.order
          rw [fits.2 nested]
          exact List.append_nil s.order
  | clearTerminate | createThread | setTerminate | joinable | join | resetThread
  | clearEnumerated => exact absurd rfl fits.2

/-- The observer thread goes on alone, until it ends. -/
structure Ending (was : Blocking T O) (s : Blocking T O) : Prop where
  inv : s.Inv
  terminates : s.shouldTerminate = true
  order : s.order = was.order
  clients : ∀ t, s.frames (some t) = was.frames (some t) ∧ s.lock.acquisitions (some t) = 0

theorem Ending.exists_goes {was s : Blocking T O} (h : Ending was s)
    (hthread : s.frames none ≠ []) :
    ∃ s', Reaches Goes s s' ∧ Ending was s' ∧
      weight (s'.frames none) < weight (s.frames none) := by
  obtain ⟨frame, rest, hframes⟩ := List.exists_cons_of_ne_nil hthread
  have stacked := h.inv.stacked none
  rw [hframes] at stacked
  have hdeciding : frame.isDeciding = false := by
    by_contra hc
    exact (stacked.alone List.mem_cons_self (Bool.eq_true_of_not_eq_false hc)).2 rfl
  have hlock : 0 < s.lock.acquisitions none ∨ s.lock = .free := by
    by_cases hc : s.lock.acquisitions none = 0
    · refine .inr (RecursiveMutex.eq_free_of_acquisitions fun q => ?_)
      cases q with
      | none => exact hc
      | some t => exact (h.clients t).2
    · exact .inl (Nat.pos_of_ne_zero hc)
  obtain ⟨s', goes, inv', hrun, hlt, same⟩ :=
    h.inv.exists_goes hframes hlock hdeciding fun _ => h.terminates
  obtain ⟨order, terminates⟩ := h.inv.same_of_run hframes hrun
  refine ⟨s', .more .refl goes, ⟨inv', terminates.trans h.terminates, order.trans h.order,
    fun t => ?_⟩, hlt⟩
  have client := same (some t) (Option.some_ne_none t)
  refine ⟨client.trans (h.clients t).1, ?_⟩
  rw [inv'.locks.lock, client, ← h.inv.locks.lock]
  exact (h.clients t).2

/-- **The observer thread ends**, once it is told to terminate and the lock is free. -/
theorem Inv.exists_ended {s : Blocking T O} (h : s.Inv) (hfree : s.lock = .free)
    (hterminates : s.shouldTerminate = true) :
    ∃ s', Reaches Goes s s' ∧ Ending s s' ∧ s'.frames none = [] := by
  have start : Ending s s := ⟨h, hterminates, rfl, fun t => ⟨rfl, by rw [hfree]; rfl⟩⟩
  have closer := fun (s' : Blocking T O) (hs : Ending s s') => hs.exists_goes
  exact exists_reaches_of_measure (fun s => weight (s.frames none)) closer start

/-- Whoever has to carry out a decision is about to call the delegate, or in that call. -/
theorem Inv.carrying {s : Blocking T O} (h : s.Inv) (hfree : s.lock = .free) {party : Option T}
    {decision : Decision} {order : List (Option T × Decision)}
    (horder : s.order = (party, decision) :: order) :
    ∃ frame, s.frames party = [frame] ∧ frame.isDeciding = true ∧
      frame.pending = some decision := by
  have pending := h.pending party
  rw [horder, decisionsOf_cons_self] at pending
  obtain ⟨frame, hmem, hpending⟩ := List.mem_filterMap.mp
    (pending ▸ List.mem_cons_self : decision ∈ (s.frames party).filterMap Frame.pending)
  have hdeciding : frame.isDeciding = true := by
    cases frame with
    | clearTerminate | createThread | setTerminate | joinable | join | resetThread
    | clearEnumerated => rfl
    | testing | refreshing | setEnumerated | locking | checking | polling => cases hpending
    | working work decision =>
        have locked := h.locks.lock party
        rw [hfree] at locked
        exact absurd rfl (List.countP_eq_zero.mp locked.symm _ hmem)
  exact ⟨frame, ((h.stacked party).alone hmem hdeciding).1, hdeciding, hpending⟩

/-- What a step of a call of the delegate does to the lock and to the decisions. -/
theorem carry_run {s s' : Blocking T O} {party : Option T} {due : Bool} {frame : Frame O}
    {decision : Decision} {order : List (Option T × Decision)}
    (horder : s.order = (party, decision) :: order) (hdeciding : frame.isDeciding = true)
    (hpending : frame.pending = some decision) (hrun : s.run party due [] frame = some s') :
    s'.lock = s.lock ∧ (s'.order = s.order ∨ s'.order = order) := by
  -- what a call that returns makes of the decisions
  have erased : s.order.erase (party, decision) = order := by
    rw [horder]
    exact List.erase_cons_head ..
  cases frame with
  | clearTerminate | setTerminate =>
      obtain rfl := Option.some.inj hrun
      exact ⟨rfl, .inl rfl⟩
  | createThread =>
      obtain rfl := Option.some.inj hpending
      rw [Blocking.run] at hrun
      split at hrun
      · obtain rfl := Option.some.inj hrun
        exact ⟨rfl, .inl rfl⟩
      · obtain rfl := Option.some.inj hrun
        exact ⟨rfl, .inr erased⟩
  | joinable =>
      obtain rfl := Option.some.inj hpending
      obtain rfl := Option.some.inj hrun
      split
      · exact ⟨rfl, .inl rfl⟩
      · exact ⟨rfl, .inr erased⟩
  | join =>
      rw [Blocking.run] at hrun
      split at hrun
      · obtain rfl := Option.some.inj hrun
        exact ⟨rfl, .inl rfl⟩
      · obtain ⟨-, heq⟩ := Option.ite_none_right_eq_some.mp hrun
        obtain rfl := Option.some.inj heq
        exact ⟨rfl, .inl rfl⟩
  | resetThread =>
      rw [Blocking.run] at hrun
      split at hrun
      · obtain rfl := Option.some.inj hrun
        exact ⟨rfl, .inl rfl⟩
      · obtain rfl := Option.some.inj hrun
        exact ⟨rfl, .inl rfl⟩
  | clearEnumerated =>
      obtain rfl := Option.some.inj hpending
      obtain rfl := Option.some.inj hrun
      exact ⟨rfl, .inr erased⟩
  | testing | refreshing | setEnumerated | locking | working | checking | polling =>
      cases hdeciding

/-- The oldest decision is being carried out, while nobody has the lock. -/
structure Draining (party : Option T) (decision : Decision) (order : List (Option T × Decision))
    (s : Blocking T O) : Prop where
  inv : s.Inv
  free : s.lock = .free
  order : s.order = (party, decision) :: order ∨ s.order = order

theorem Draining.exists_goes {party : Option T} {decision : Decision}
    {order : List (Option T × Decision)} {s : Blocking T O} (h : Draining party decision order s)
    (hnot : s.order ≠ order) :
    ∃ s', Reaches Goes s s' ∧ Draining party decision order s' ∧
      weight (s'.frames party) < weight (s.frames party) := by
  have horder := h.order.resolve_right hnot
  obtain ⟨frame, hframes, hdeciding, hpending⟩ := h.inv.carrying h.free horder
  have head : s.order.head?.map Prod.fst = some party := by
    rw [horder]
    rfl
  have step {s₁ s' : Blocking T O} (hreach : Reaches Goes s s₁) (inv₁ : s₁.Inv)
      (free₁ : s₁.lock = .free) (horder₁ : s₁.order = s.order)
      (hframes₁ : s₁.frames party = s.frames party)
      (hrun : s₁.run party true [] frame = some s') :
      ∃ s', Reaches Goes s s' ∧ Draining party decision order s' ∧
        weight (s'.frames party) < weight (s.frames party) := by
    have same := hframes₁.trans hframes
    have goes := inv₁.goes same (fun _ => horder₁ ▸ head) hrun
    have inv' : s'.Inv := inv₁.next goes
    obtain ⟨lock, order'⟩ := carry_run (horder₁.trans horder) hdeciding hpending hrun
    refine ⟨s', hreach.more goes, ⟨inv', lock.trans free₁, ?_⟩, ?_⟩
    · rcases order' with hsame | hless
      · exact .inl (hsame.trans (horder₁.trans horder))
      · exact .inr hless
    · have less := inv₁.weight_run same hrun inv'.notAborted fun hc => by
        rw [hc] at hdeciding
        cases hdeciding
      rw [hframes₁] at less
      exact less
  by_cases hjoin : frame = .join
  · -- the observer thread ends first
    subst hjoin
    have mem : Frame.join ∈ s.frames party := hframes ▸ List.mem_singleton_self _
    have client := ((h.inv.stacked party).alone mem rfl).2
    obtain ⟨t, rfl⟩ := Option.ne_none_iff_exists'.mp client
    obtain ⟨s₁, hreach, ending, ended⟩ :=
      h.inv.exists_ended h.free (h.inv.joining _ _ mem rfl).1
    have free₁ : s₁.lock = .free := RecursiveMutex.eq_free_of_acquisitions fun q => by
      cases q with
      | none => rw [ending.inv.locks.lock, ended]; rfl
      | some t => exact (ending.clients t).2
    have runs : s₁.joinable = true :=
      (ending.inv.joining (some t) .join ((ending.clients t).1 ▸ mem) rfl).2
    have joins : s₁.run (some t) true [] .join = some
        { s₁.goes (some t) [.resetThread] with joinable := false } := by
      rw [run, if_neg, if_pos]
      · rw [ended]
        rfl
      · rw [runs]
        rintro (hc | hc) <;> cases hc
    exact step hreach ending.inv free₁ ending.order (ending.clients t).1 joins
  · obtain ⟨s', hrun⟩ := h.inv.exists_run hframes (.inr h.free) hjoin
    exact step .refl h.inv h.free rfl rfl hrun

/-- **The decisions are carried out**. -/
theorem Inv.exists_drained {s : Blocking T O} (h : s.Inv) (hfree : s.lock = .free) :
    ∃ s', Reaches Goes s s' ∧ s'.Inv ∧ s'.lock = .free ∧ s'.order = [] := by
  induction horder : s.order generalizing s with
  | nil => exact ⟨s, .refl, h, hfree, horder⟩
  | cons first order ih =>
      have start : Draining first.1 first.2 order s := ⟨h, hfree, .inl horder⟩
      have closer := fun (s : Blocking T O) (hs : Draining first.1 first.2 order s) =>
        hs.exists_goes
      obtain ⟨s₁, hreach, draining, done⟩ :=
        exists_reaches_of_measure (fun s => weight (s.frames first.1)) closer start
      obtain ⟨s', hreach', rest⟩ := ih draining.inv draining.free done
      exact ⟨s', hreach.trans hreach', rest⟩

/-- A client that is in a call gets closer to its end. -/
theorem Inv.exists_goes_client {s : Blocking T O} (h : s.Inv) {t : T}
    (hcall : s.frames (some t) ≠ []) :
    ∃ s', Reaches Goes s s' ∧ s'.Inv ∧
      weight (s'.frames (some t)) < weight (s.frames (some t)) := by
  obtain ⟨s₁, hreach₁, inv₁, free₁⟩ := h.exists_free
  obtain ⟨s₂, hreach₂, inv₂, free₂, drained⟩ := inv₁.exists_drained free₁
  have le := h.weight_le t (hreach₁.trans hreach₂)
  cases hframes : s₂.frames (some t) with
  | nil =>
      refine ⟨s₂, hreach₁.trans hreach₂, inv₂, ?_⟩
      rw [hframes]
      exact weight_pos hcall
  | cons frame rest =>
      have pending := inv₂.pending (some t)
      have stacked := inv₂.stacked (some t)
      rw [hframes] at stacked
      rw [hframes, drained] at pending
      have hdeciding : frame.isDeciding = false := by
        by_contra hc
        obtain ⟨decision, hpending⟩ := Frame.exists_pending (Bool.eq_true_of_not_eq_false hc)
        rw [List.filterMap_cons_some hpending] at pending
        cases pending
      obtain ⟨s', goes, inv', -, hlt, -⟩ :=
        inv₂.exists_goes hframes (.inr free₂) hdeciding fun hc => by
          subst hc
          exact absurd stacked.1.2 (Option.some_ne_none t)
      exact ⟨s', Reaches.more (hreach₁.trans hreach₂) goes, inv', hlt.trans_le le⟩

/-- **No call is stuck**: in every run that is orderly, the process does not abort, and wherever it
stands, the threads can go on, in order, until a given call has returned. -/
theorem returns_of_reaches {system : Interfaces} {s : Blocking T O}
    (h : Reaches (Meeting Orderly (Steps next)) { system := system } s) (t : T) :
    s.aborted = false ∧ ∃ s', Reaches Goes s s' ∧ s'.frames (some t) = [] := by
  have inv := inv_of_reaches h
  have closer := fun (s : Blocking T O) (hs : s.Inv) => @Inv.exists_goes_client T O _ _ s hs t
  obtain ⟨s', hreach, -, done⟩ :=
    exists_reaches_of_measure (fun s => weight (s.frames (some t))) closer inv
  exact ⟨inv.notAborted, s', hreach, done⟩

instance decidableOrderly (s : Blocking T O) (event : Event T O) : Decidable (s.Orderly event) :=
  match event with
  | .callback _ call            =>
      inferInstanceAs (Decidable ((call.body s.helper).2 = none))
  | .advance party _            =>
      inferInstanceAs (Decidable ((s.frames party).head?.any Frame.isEntering = true →
        s.order.head?.map Prod.fst = some party))
  | .systemChanges _ | .call .. => inferInstanceAs (Decidable True)

end

/-- The last observer is unregistered while a callback enumerates the interfaces on the observer
thread. -/
def unregisters : List (Event Bool Unit) :=
  registers ++ [.advance none true, .callback none (.enumerateInterfaces true),
    .call true (.unregisterObserver (some ()))]

theorem returns_of_reaches_unregisters :
    ∃ s, exec next ({ system := onlyEn0 0 } : Blocking Bool Unit) unregisters = some s ∧
      s.aborted = false ∧ ∃ s', Reaches Goes s s' ∧ s'.frames (some true) = [] := by
  have goes : (exec (guarded Orderly next) ({ system := onlyEn0 0 } : Blocking Bool Unit)
      unregisters).isSome = true := by decide
  obtain ⟨s, hrun⟩ := Option.isSome_iff_exists.mp goes
  exact ⟨s, exec_of_guarded hrun, returns_of_reaches (reaches_of_exec_guarded hrun) true⟩

end Blocking

end NetworkInterface
