import NetworkInterface.Delegate.Keyed
import NetworkInterface.Delegate.MacCache
import NetworkInterface.Support.Related

/-!
# Monitor — MacOS

The macOS delegate while it monitors: the system changes the dynamic store and notes the keys, and
`dynamicStoreChangedCallback` and `onIONetworkInterfaceChanged`, which exclude each other by
`_notificationLock`, read it entry by entry while it goes on changing.

- `agrees_of_reaches`: whenever no callback runs and none is due, the table is the one of a refresh,
  but for interfaces that read a key that changed before monitoring began and after the enumeration.
- `observers_agree`: then the map of every observer is the one of a refresh too.
- `reaches_dynamicStoreChangedCallback`: a callback that nothing disturbs is the function of
  `Delegate.MacChanges`.
-/

namespace NetworkInterface

namespace MacOS

open Support Runs Related

variable {O : Type} [DecidableEq O]

/-! ### The steps -/

/-- What whoever holds `_notificationLock` has still to do. -/
inductive Work where
  | idle
  /-- `dynamicStoreChangedCallback` has these keys left. -/
  | keys (changedKeys : List Text)
  /-- `refreshInterfaces` begins. -/
  | refresh
  /-- `refreshInterfaces` has these services left, and has made these interfaces. -/
  | services (keys : List Text) (interfaces : Interfaces)

/-- The store, the keys whose change the callback has not begun to deal with, and the delegate. -/
structure Monitoring (O : Type) where
  store : Store
  pending : List Text
  state : State O
  work : Work

inductive Event (O : Type) where
  /-- The system changes the store, and notes the keys. -/
  | change (store : Store) (changedKeys : List Text)
  /-- `dynamicStoreChangedCallback` takes the lock.  The keys of `later` were noted after it was
  called. -/
  | dynamicStoreChanged (changedKeys later : List Text)
  /-- `onIONetworkInterfaceChanged` takes the lock. -/
  | ioNetworkInterfaceChanged
  /-- The next turn of the loop over the keys or over the services, which reads `seen`. -/
  | turn (seen : Store)
  /-- `SCDynamicStoreCopyKeyList`, after the mapping is cleared. -/
  | copyKeyList
  /-- The end of `refreshInterfaces`, and `onNewInterfacesList`. -/
  | newInterfacesList
  | registerObserver (observer : Option O)
  | unregisterObserver (observer : Option O)
  /-- The two maps come in another order. -/
  | rehash (networkInterfaces : Interfaces) (interfaceToServiceMapping : ServiceMapping)

namespace Monitoring

/-- With another helper. -/
def withHelper (m : Monitoring O) (helper : Helper O) : Monitoring O :=
  { m with state := { m.state with helper := helper } }

/-- A turn of the loop over the changed keys, at what is to be done about the first. -/
def act (m : Monitoring O) (changedKeys : List Text) : KeyAction → Monitoring O
  | .notify interfaceName property =>
      { m.withHelper (m.state.helper.onPropertyChanged interfaceName property) with
        work := .keys changedKeys }
  | .needsFullRefresh => { m with work := .refresh }
  | .ignored => { m with work := .keys changedKeys }

/-- A turn of a loop.  It ends the process where it reads a text the constructors are undefined
at. -/
def turn (m : Monitoring O) (seen : Store) : Option (Monitoring O) :=
  match m.work with
  | .keys [] => some { m with work := .idle }
  | .keys (key :: changedKeys) =>
      (keyAction seen m.state.interfaceToServiceMapping key).toOption.map (m.act changedKeys)
  | .services (key :: keys) interfaces =>
      (refreshService seen (m.state.interfaceToServiceMapping, interfaces) key).toOption.map
        fun (mapping, interfaces) =>
          { m with
            state := { m.state with interfaceToServiceMapping := mapping }
            work := .services keys interfaces }
  | _ => none

/-- What an event makes of the state. -/
def next (os : System) (m : Monitoring O) : Event O → Option (Monitoring O)
  | .change store changedKeys =>
      some { m with store := store, pending := m.pending ++ changedKeys }
  | .dynamicStoreChanged changedKeys later =>
      match m.work with
      | .idle => some { m with pending := later, work := .keys changedKeys }
      | _     => none
  | .ioNetworkInterfaceChanged =>
      match m.work with
      | .idle => some { m with work := .refresh }
      | _     => none
  | .turn seen => m.turn seen
  | .copyKeyList =>
      match m.work with
      | .refresh => some { m with
          state := { m.state with interfaceToServiceMapping := ∅ }
          work := .services (copyServiceKeys os m.store) ∅ }
      | _        => none
  | .newInterfacesList =>
      match m.work with
      | .services [] interfaces =>
          some { m.withHelper (m.state.helper.onNewInterfacesList
            (removeIncomplete (setOtherFieldsFromIOCTL os interfaces))) with work := .idle }
      | _ => none
  | .registerObserver observer =>
      some (m.withHelper (m.state.helper.registerObserver observer).1)
  | .unregisterObserver observer =>
      some (m.withHelper (m.state.helper.unregisterObserver observer).1)
  | .rehash networkInterfaces mapping =>
      some { m with state :=
        ⟨{ m.state.helper with networkInterfaces := networkInterfaces }, mapping⟩ }

/-- What the system and the standard library promise about an event: the store stays well formed,
the monitored keys that change are noted, and then told in any order; what is read is the store's,
but for entries that changed later; and maps keep their entries. -/
def Allowed (m : Monitoring O) : Event O → Prop
  | .change store changedKeys => WellFormed store ∧ Covers changedKeys m.store store
  | .dynamicStoreChanged changedKeys later =>
      ∀ key, key ∈ m.pending ↔ key ∈ changedKeys ∨ key ∈ later
  | .turn seen => SameBut (outdated m.pending) m.store seen
  | .rehash networkInterfaces mapping =>
      networkInterfaces.entries.Perm m.state.helper.networkInterfaces.entries ∧
        mapping.entries.Perm m.state.interfaceToServiceMapping.entries
  | _ => True

/-- A step of the system. -/
def Step (os : System) : Monitoring O → Event O → Monitoring O → Prop :=
  Meeting Allowed (Steps (next os))

/-! ### What a step can do -/

theorem eq_ok_of_toOption {α : Type} {outcome : Outcome α} {a : α}
    (h : outcome.toOption = some a) : outcome = .ok a := by
  cases outcome with
  | error f => cases h
  | ok b => exact congrArg _ (Option.some.inj h)

section
variable {os : System} {m m' : Monitoring O} {seen : Store} {changedKeys later : List Text}

/-- A turn ends the callback, deals with a key, or reads a service. -/
theorem turn_cases (h : m.turn seen = some m') :
    (m.work = .keys [] ∧ m' = { m with work := .idle }) ∨
    (∃ key changedKeys action, m.work = .keys (key :: changedKeys) ∧
      keyAction seen m.state.interfaceToServiceMapping key = .ok action ∧
      m' = m.act changedKeys action) ∨
    ∃ key keys interfaces mapping interfaces', m.work = .services (key :: keys) interfaces ∧
      refreshService seen (m.state.interfaceToServiceMapping, interfaces) key =
        .ok (mapping, interfaces') ∧
      m' = { m with
        state := { m.state with interfaceToServiceMapping := mapping }
        work := .services keys interfaces' } := by
  rw [turn] at h
  cases hwork : m.work with
  | idle =>
      simp only [hwork] at h
      cases h
  | refresh =>
      simp only [hwork] at h
      cases h
  | keys left =>
      cases left with
      | nil =>
          simp only [hwork] at h
          exact .inl ⟨rfl, (Option.some.inj h).symm⟩
      | cons key changedKeys =>
          simp only [hwork] at h
          obtain ⟨action, haction, rfl⟩ := Option.map_eq_some_iff.mp h
          exact .inr (.inl ⟨key, changedKeys, action, rfl, eq_ok_of_toOption haction, rfl⟩)
  | services left interfaces =>
      cases left with
      | nil =>
          simp only [hwork] at h
          cases h
      | cons key keys =>
          simp only [hwork] at h
          obtain ⟨⟨mapping, interfaces'⟩, hrun, rfl⟩ := Option.map_eq_some_iff.mp h
          exact .inr (.inr ⟨key, keys, interfaces, mapping, interfaces', rfl,
            eq_ok_of_toOption hrun, rfl⟩)

theorem next_dynamicStoreChanged
    (h : next os m (.dynamicStoreChanged changedKeys later) = some m') :
    m.work = .idle ∧ m' = { m with pending := later, work := .keys changedKeys } := by
  rw [next] at h
  split at h
  · exact ⟨‹_›, (Option.some.inj h).symm⟩
  · cases h

theorem next_ioNetworkInterfaceChanged (h : next os m .ioNetworkInterfaceChanged = some m') :
    m.work = .idle ∧ m' = { m with work := .refresh } := by
  rw [next] at h
  split at h
  · exact ⟨‹_›, (Option.some.inj h).symm⟩
  · cases h

theorem next_copyKeyList (h : next os m .copyKeyList = some m') :
    m.work = .refresh ∧ m' = { m with
      state := { m.state with interfaceToServiceMapping := ∅ }
      work := .services (copyServiceKeys os m.store) ∅ } := by
  rw [next] at h
  split at h
  · exact ⟨‹_›, (Option.some.inj h).symm⟩
  · cases h

theorem next_newInterfacesList (h : next os m .newInterfacesList = some m') :
    ∃ interfaces, m.work = .services [] interfaces ∧
      m' = { m.withHelper (m.state.helper.onNewInterfacesList
        (removeIncomplete (setOtherFieldsFromIOCTL os interfaces))) with work := .idle } := by
  rw [next] at h
  split at h
  · exact ⟨_, ‹_›, (Option.some.inj h).symm⟩
  · cases h

/-- Only the system changes the store. -/
theorem store_turn (h : m.turn seen = some m') : m'.store = m.store := by
  obtain ⟨-, rfl⟩ | ⟨key, left, action, -, -, rfl⟩ | ⟨key, keys, i, mapping, i', -, -, rfl⟩ :=
    turn_cases h
  · rfl
  · cases action <;> rfl
  · rfl

theorem wellFormed_step {event : Event O} (hwell : WellFormed m.store)
    (hstep : Step os m event m') : WellFormed m'.store := by
  obtain ⟨hallowed, hnext⟩ := hstep
  cases event with
  | change store changedKeys =>
      obtain rfl := Option.some.inj hnext
      exact hallowed.1
  | dynamicStoreChanged changedKeys later =>
      obtain ⟨-, rfl⟩ := next_dynamicStoreChanged hnext
      exact hwell
  | ioNetworkInterfaceChanged =>
      obtain ⟨-, rfl⟩ := next_ioNetworkInterfaceChanged hnext
      exact hwell
  | turn seen => exact store_turn hnext ▸ hwell
  | copyKeyList =>
      obtain ⟨-, rfl⟩ := next_copyKeyList hnext
      exact hwell
  | newInterfacesList =>
      obtain ⟨interfaces, -, rfl⟩ := next_newInterfacesList hnext
      exact hwell
  | registerObserver observer =>
      obtain rfl := Option.some.inj hnext
      exact hwell
  | unregisterObserver observer =>
      obtain rfl := Option.some.inj hnext
      exact hwell
  | rehash networkInterfaces mapping =>
      obtain rfl := Option.some.inj hnext
      exact hwell

end

/-! ### The invariant -/

/-- The cache is right up to the keys that are still to be told or to be dealt with, and those that
were never told (`missed`), unless one of the former is sure to ask for a full refresh. -/
def Sound (os : System) (missed : List Text) (m : Monitoring O) : Prop :=
  match m.work with
  | .idle => Restructured m.pending ∨ Consistent os m.store (outdated (m.pending ++ missed))
      m.state.interfaceToServiceMapping m.state.helper.networkInterfaces
  | .keys changedKeys => Restructured (m.pending ++ changedKeys) ∨
      Consistent os m.store (outdated (m.pending ++ changedKeys ++ missed))
        m.state.interfaceToServiceMapping m.state.helper.networkInterfaces
  | .refresh => True
  | .services keys interfaces => Restructured m.pending ∨
      ∃ done, copyServiceKeys os m.store = done ++ keys ∧
        Listing m.store (outdated m.pending) done (m.state.interfaceToServiceMapping, interfaces)

end Monitoring

section
variable {os : System} {store : Store} {keys keys' missed : List Text}

theorem networkInterfaces_registerObserver (observer : Option O) (helper : Helper O) :
    (helper.registerObserver observer).1.networkInterfaces = helper.networkInterfaces := by
  cases observer with
  | none => rfl
  | some observer =>
      rw [Helper.registerObserver]
      split <;> rfl

theorem networkInterfaces_unregisterObserver (observer : Option O) (helper : Helper O) :
    (helper.unregisterObserver observer).1.networkInterfaces = helper.networkInterfaces := by
  cases observer with
  | none => rfl
  | some observer =>
      rw [Helper.unregisterObserver]
      split <;> rfl

theorem subset_append_left {l l' : List Text} (h : l ⊆ l') (k : List Text) : l ++ k ⊆ l' ++ k :=
  List.append_subset.mpr ⟨fun _ hk => List.mem_append_left _ (h hk), List.subset_append_right _ _⟩

theorem Restructured.mono (h : Restructured keys) (hsub : keys ⊆ keys') : Restructured keys' := by
  obtain ⟨key, hmem, hkey⟩ := h
  exact ⟨key, hsub hmem, hkey⟩

/-- The cache does not see the order of the maps. -/
theorem Consistent.congr {P : Set Text} {mapping mapping' : ServiceMapping}
    {interfaces interfaces' : Interfaces} (h : Consistent os store P mapping interfaces)
    (hmapping : ∀ name, mapping'.lookup name = mapping.lookup name)
    (hinterfaces : ∀ name, interfaces'.lookup name = interfaces.lookup name) :
    Consistent os store P mapping' interfaces' where
  mapped name := (hmapping name).trans (h.mapped name)
  rest name := by
    rw [hinterfaces, h.rest, fixedOf_congr (hmapping name).symm fun _ _ => rfl]
  kept name field := by
    rw [hinterfaces]
    exact upTo_view_congr (hmapping name).symm (h.kept name field)

theorem Listing.congr {P : Set Text} {done : List Text} {mapping mapping' : ServiceMapping}
    {interfaces : Interfaces} (h : Listing store P done (mapping, interfaces))
    (hmapping : ∀ name, mapping'.lookup name = mapping.lookup name) :
    Listing store P done (mapping', interfaces) where
  mapped name := (hmapping name).trans (h.mapped name)
  rest name := (h.rest name).trans (fixedOf_congr (hmapping name).symm fun _ _ => rfl)
  kept name field := upTo_view_congr (hmapping name).symm (h.kept name field)

omit [DecidableEq O] in
/-- A step that leaves alone all but what the cache does not see. -/
theorem Monitoring.Sound.congr {m m' : Monitoring O} (h : m.Sound os missed)
    (hstore : m'.store = m.store)
    (hpending : m'.pending = m.pending) (hwork : m'.work = m.work)
    (hmapping : ∀ name, m'.state.interfaceToServiceMapping.lookup name =
      m.state.interfaceToServiceMapping.lookup name)
    (hinterfaces : ∀ name, m'.state.helper.networkInterfaces.lookup name =
      m.state.helper.networkInterfaces.lookup name) : m'.Sound os missed := by
  rw [Sound, hwork, hstore, hpending]
  rw [Sound] at h
  cases hw : m.work with
  | idle =>
      rw [hw] at h
      exact h.imp_right (·.congr hmapping hinterfaces)
  | keys changedKeys =>
      rw [hw] at h
      exact h.imp_right (·.congr hmapping hinterfaces)
  | refresh => trivial
  | services keys interfaces =>
      rw [hw] at h
      exact h.imp_right fun ⟨done, hdone, listing⟩ => ⟨done, hdone, listing.congr hmapping⟩

omit [DecidableEq O] in
/-- The store changes. -/
theorem Monitoring.Sound.change {m : Monitoring O} {store : Store} {changedKeys : List Text}
    (h : m.Sound os missed) (hcovers : Covers changedKeys m.store store) :
    Monitoring.Sound os missed { m with store := store, pending := m.pending ++ changedKeys } := by
  obtain ⟨old, pending, state, work⟩ := m
  have hsame : SameBut (outdated changedKeys) old store := sameBut_of_covers hcovers
  have noted : changedKeys ⊆ pending ++ changedKeys := List.subset_append_right _ _
  have kept : pending ⊆ pending ++ changedKeys := List.subset_append_left _ _
  by_cases hstructure : Restructured changedKeys
  · cases work with
    | idle => exact .inl (hstructure.mono noted)
    | keys left => exact .inl (hstructure.mono fun _ hk => List.mem_append_left _ (noted hk))
    | refresh => trivial
    | services keys interfaces => exact .inl (hstructure.mono noted)
  cases work with
  | idle =>
      have sub : (pending ++ missed) ++ changedKeys ⊆ (pending ++ changedKeys) ++ missed := by
        intro key
        simp only [List.mem_append]
        tauto
      refine h.imp (·.mono kept) fun hc => ?_
      exact (hc.change hsame hstructure).mono (outdated_mono sub)
  | keys left =>
      have sub : ((pending ++ left) ++ missed) ++ changedKeys ⊆
          ((pending ++ changedKeys) ++ left) ++ missed := by
        intro key
        simp only [List.mem_append]
        tauto
      refine h.imp (·.mono (subset_append_left kept left)) fun hc => ?_
      exact (hc.change hsame hstructure).mono (outdated_mono sub)
  | refresh => trivial
  | services keys interfaces =>
      refine h.imp (·.mono kept) fun ⟨done, hdone, listing⟩ => ⟨done, ?_, ?_⟩
      · rw [← hdone]
        exact (hsame.copyServiceKeys_eq hstructure os).symm
      · refine listing.change (fun key hkey => ?_) hsame hstructure
        have hmem : key ∈ copyServiceKeys os old := hdone ▸ List.mem_append_left _ hkey
        exact (mem_copyServiceKeys.mp hmem).2

/-- A changed key is dealt with. -/
theorem Monitoring.Sound.act {m : Monitoring O} {key : Text} {changedKeys : List Text}
    {seen : Store} {action : KeyAction} (h : m.Sound os missed)
    (hwork : m.work = .keys (key :: changedKeys))
    (hwell : WellFormed m.store) (hseen : SameBut (outdated m.pending) m.store seen)
    (haction : keyAction seen m.state.interfaceToServiceMapping key = .ok action) :
    (m.act changedKeys action).Sound os missed := by
  rw [Sound, hwork] at h
  by_cases hrefresh : action = .needsFullRefresh
  · subst hrefresh
    trivial
  have left : (m.pending ++ key :: changedKeys) ⊆ key :: (m.pending ++ changedKeys) :=
    List.perm_middle.subset
  have sub : outdated (m.pending ++ key :: changedKeys ++ missed) ⊆
      insert key (outdated (m.pending ++ changedKeys ++ missed)) :=
    (outdated_mono (List.perm_middle.append_right missed).subset).trans outdated_cons
  have hseen' : SameBut (outdated (m.pending ++ changedKeys ++ missed)) m.store seen :=
    fun k hk => hseen k fun hc => hk <| outdated_mono
      (List.subset_append_of_subset_left _ (List.subset_append_left _ _)) hc
  -- a key of the structure of a service would have asked for a full refresh
  have restructured : Restructured (m.pending ++ key :: changedKeys) →
      Restructured (m.pending ++ changedKeys) := by
    rintro ⟨other, hmem, hother⟩
    rcases List.mem_cons.mp (left hmem) with rfl | hmem
    · obtain ⟨serviceID, -, -, rfl⟩ := hother
      exact absurd (Except.ok.inj (haction.symm.trans (keyAction_interface serviceID))) hrefresh
    · exact ⟨other, hmem, hother⟩
  have consistent {interfaces : Interfaces} (hlookup : ∀ name, interfaces.lookup name =
      (m.state.helper.networkInterfaces.lookup name).map fun interface =>
        action.give name interface) :=
    h.imp restructured fun hc => (hc.mono sub).deal hwell hseen' haction hrefresh hlookup
  cases action with
  | notify interfaceName property =>
      refine consistent fun name => ?_
      exact lookup_onPropertyChanged m.state.helper interfaceName property name
  | needsFullRefresh => exact absurd rfl hrefresh
  | ignored => exact consistent fun name => (Option.map_id_apply ..).symm

/-- A turn of a loop. -/
theorem Monitoring.Sound.turn {m m' : Monitoring O} {seen : Store} (h : m.Sound os missed)
    (hwell : WellFormed m.store) (hseen : SameBut (outdated m.pending) m.store seen)
    (hturn : m.turn seen = some m') : m'.Sound os missed := by
  obtain ⟨hwork, rfl⟩ | ⟨key, changedKeys, action, hwork, haction, rfl⟩ |
    ⟨key, keys, interfaces, mapping, interfaces', hwork, hrun, rfl⟩ := turn_cases hturn
  · rw [Sound, hwork] at h
    dsimp only at h
    rw [List.append_nil] at h
    exact h
  · exact h.act hwork hwell hseen haction
  · rw [Sound, hwork] at h
    by_cases hstructure : Restructured m.pending
    · exact .inl hstructure
    obtain ⟨done, hdone, listing⟩ := h.resolve_left hstructure
    have hmem : key ∈ copyServiceKeys os m.store := by simp [hdone]
    refine .inr ⟨done ++ [key], ?_, ?_⟩
    · rw [List.append_assoc]
      exact hdone
    · exact listing.refreshService hstructure (mem_copyServiceKeys.mp hmem).2 hseen hrun

/-- **Every step** keeps the cache sound. -/
theorem Monitoring.Sound.step {m m' : Monitoring O} {event : Event O} (h : m.Sound os missed)
    (hwell : WellFormed m.store) (hstep : Step os m event m') : m'.Sound os missed := by
  obtain ⟨hallowed, hnext⟩ := hstep
  cases event with
  | change store changedKeys =>
      obtain rfl := Option.some.inj hnext
      exact h.change hallowed.2
  | dynamicStoreChanged changedKeys later =>
      obtain ⟨hwork, rfl⟩ := next_dynamicStoreChanged hnext
      rw [Sound, hwork] at h
      -- the keys that were due are now the callback's, or still due
      have sub : m.pending ⊆ later ++ changedKeys := fun key hkey =>
        List.mem_append.mpr ((hallowed key).mp hkey).symm
      exact h.imp (·.mono sub) (·.mono (outdated_mono (subset_append_left sub missed)))
  | ioNetworkInterfaceChanged =>
      obtain ⟨-, rfl⟩ := next_ioNetworkInterfaceChanged hnext
      trivial
  | turn seen => exact h.turn hwell hallowed hnext
  | copyKeyList =>
      obtain ⟨-, rfl⟩ := next_copyKeyList hnext
      exact .inr ⟨[], rfl, .nil _ _⟩
  | newInterfacesList =>
      obtain ⟨interfaces, hwork, rfl⟩ := next_newInterfacesList hnext
      rw [Sound, hwork] at h
      refine h.imp_right fun ⟨done, hdone, listing⟩ => ?_
      rw [List.append_nil] at hdone
      subst hdone
      exact listing.finish.mono (outdated_mono (List.subset_append_left _ _))
  | registerObserver observer =>
      obtain rfl := Option.some.inj hnext
      refine h.congr rfl rfl rfl (fun _ => rfl) fun name => ?_
      exact congrArg _ (networkInterfaces_registerObserver observer m.state.helper)
  | unregisterObserver observer =>
      obtain rfl := Option.some.inj hnext
      refine h.congr rfl rfl rfl (fun _ => rfl) fun name => ?_
      exact congrArg _ (networkInterfaces_unregisterObserver observer m.state.helper)
  | rehash networkInterfaces mapping =>
      obtain rfl := Option.some.inj hnext
      exact h.congr rfl rfl rfl (fun _ => AList.perm_lookup hallowed.2)
        fun _ => AList.perm_lookup hallowed.1

/-! ### Runs -/

/-- No callback runs, and none is due. -/
def Monitoring.Quiescent (m : Monitoring O) : Prop := m.work = .idle ∧ m.pending = []

/-- Monitoring begins with the table and the mapping of a refresh of an earlier store; the keys of
`missed` have changed since, but no service was restructured. -/
structure Monitoring.Begins (os : System) (earlier : Store) (missed : List Text)
    (m : Monitoring O) : Prop where
  wellFormed : WellFormed m.store
  idle : m.work = .idle
  refreshed : refreshInterfaces os earlier =
    .ok (m.state.interfaceToServiceMapping, m.state.helper.networkInterfaces)
  covers : Covers missed earlier m.store
  kept : ¬ Restructured missed

omit [DecidableEq O] in
theorem Monitoring.Begins.sound {earlier : Store} {m : Monitoring O}
    (h : m.Begins os earlier missed) : m.Sound os missed := by
  have start := (consistent_of_refreshInterfaces h.refreshed).change (sameBut_of_covers h.covers)
    h.kept
  rw [Sound, h.idle]
  exact .inr (start.mono (outdated_mono (List.subset_append_right _ _)))

/-- What every step keeps. -/
structure Monitoring.Inv (os : System) (missed : List Text) (m : Monitoring O) : Prop where
  sound : m.Sound os missed
  wellFormed : WellFormed m.store

theorem Monitoring.Begins.run {earlier : Store} {m m' : Monitoring O}
    (h : m.Begins os earlier missed) (hrun : Reaches (Step os) m m') : m'.Inv os missed :=
  hrun.invariant (fun _ _ _ inv hstep =>
    ⟨inv.sound.step inv.wellFormed hstep, wellFormed_step inv.wellFormed hstep⟩)
    ⟨h.sound, h.wellFormed⟩

/-- At rest, nothing is left but what was missed. -/
theorem Monitoring.Begins.consistent {earlier : Store} {m m' : Monitoring O}
    (h : m.Begins os earlier missed) (hrun : Reaches (Step os) m m') (hquiescent : m'.Quiescent) :
    Consistent os m'.store (outdated missed) m'.state.interfaceToServiceMapping
      m'.state.helper.networkInterfaces := by
  have sound := (h.run hrun).sound
  rw [Sound, hquiescent.1] at sound
  dsimp only at sound
  rw [hquiescent.2] at sound
  refine sound.resolve_left ?_
  rintro ⟨key, hmem, -⟩
  cases hmem

/-- **At rest, the table is up to date**: it has the names of a refresh, and under each the same
interface, unless that is computed from a key whose change was missed. -/
theorem agrees_of_reaches {earlier : Store} {m m' : Monitoring O} (h : m.Begins os earlier missed)
    (hrun : Reaches (Monitoring.Step os) m m') (hquiescent : m'.Quiescent)
    {mapping : ServiceMapping} {interfaces : Interfaces}
    (hrefresh : refreshInterfaces os m'.store = .ok (mapping, interfaces)) :
    (∀ name, m'.state.interfaceToServiceMapping.lookup name = mapping.lookup name) ∧
    (∀ name, name ∈ m'.state.helper.networkInterfaces ↔ name ∈ interfaces) ∧
    ∀ name, ¬ Touched m'.state.interfaceToServiceMapping missed name →
      Option.Rel (fun l r : Interface => (l == r) = true)
        (m'.state.helper.networkInterfaces.lookup name) (interfaces.lookup name) :=
  (h.consistent hrun hquiescent).agrees (h.run hrun).wellFormed hrefresh

end

/-! ### A callback that is not disturbed -/

section
variable (os : System)

theorem sameBut_refl (P : Set Text) (store : Store) : SameBut P store store := fun _ _ => rfl

/-- The loop over the keys, when the store stays as it is. -/
theorem reaches_processKeys {store : Store} {mapping : ServiceMapping} {changedKeys : List Text}
    {helper helper' : Helper O} {needsFullRefresh : Bool}
    (hrun : processKeys store mapping changedKeys helper = .ok (helper', needsFullRefresh)) :
    Reaches (Monitoring.Step os) ⟨store, [], ⟨helper, mapping⟩, .keys changedKeys⟩
      ⟨store, [], ⟨helper', mapping⟩, if needsFullRefresh then .refresh else .idle⟩ := by
  induction changedKeys generalizing helper with
  | nil =>
      obtain ⟨rfl, rfl⟩ := Prod.mk.inj (Except.ok.inj hrun)
      exact .single ⟨.turn store, sameBut_refl _ _, rfl⟩
  | cons key changedKeys ih =>
      obtain ⟨action, haction, hrun⟩ := Outcome.bind_eq_ok.mp hrun
      have first : Monitoring.Step os ⟨store, [], ⟨helper, mapping⟩, .keys (key :: changedKeys)⟩
          (.turn store)
          (Monitoring.act ⟨store, [], ⟨helper, mapping⟩, .keys (key :: changedKeys)⟩ changedKeys
            action) := by
        refine ⟨sameBut_refl _ _, ?_⟩
        change (keyAction store mapping key).toOption.map _ = _
        rw [haction]
        rfl
      refine .head ⟨_, first⟩ ?_
      cases action with
      | notify interfaceName property => exact ih hrun
      | needsFullRefresh =>
          obtain ⟨rfl, rfl⟩ := Prod.mk.inj (Except.ok.inj hrun)
          exact .refl
      | ignored => exact ih hrun

/-- The loop over the services. -/
theorem reaches_refreshService (helper : Helper O) {store : Store} {keys : List Text}
    {listed listed' : ServiceMapping × Interfaces}
    (hrun : keys.foldlM (refreshService store) listed = .ok listed') :
    Reaches (Monitoring.Step os) ⟨store, [], ⟨helper, listed.1⟩, .services keys listed.2⟩
      ⟨store, [], ⟨helper, listed'.1⟩, .services [] listed'.2⟩ := by
  induction keys generalizing listed with
  | nil =>
      obtain rfl := Except.ok.inj hrun
      exact .refl
  | cons key keys ih =>
      rw [List.foldlM_cons] at hrun
      obtain ⟨listed₁, hfirst, hrest⟩ := Outcome.bind_eq_ok.mp hrun
      refine .head ⟨.turn store, sameBut_refl _ _, ?_⟩ (ih hrest)
      simp only [Steps, Monitoring.next, Monitoring.turn, hfirst]
      rfl

/-- A full refresh. -/
theorem reaches_fullRefresh {store : Store} {state state' : State O}
    (hrun : fullRefresh os store state = .ok state') :
    Reaches (Monitoring.Step os) ⟨store, [], state, .refresh⟩ ⟨store, [], state', .idle⟩ := by
  obtain ⟨⟨mapping, newList⟩, hrefresh, hrun⟩ := Outcome.bind_eq_ok.mp hrun
  obtain rfl := Except.ok.inj hrun
  obtain ⟨⟨mapping', listed⟩, hlisted, hrefresh⟩ := Outcome.bind_eq_ok.mp hrefresh
  obtain ⟨rfl, rfl⟩ := Prod.mk.inj (Except.ok.inj hrefresh)
  refine .head ⟨.copyKeyList, trivial, rfl⟩ (Relation.ReflTransGen.trans
    (reaches_refreshService os state.helper hlisted) (.single ?_))
  exact ⟨.newInterfacesList, trivial, rfl⟩

/-- **A callback that is not disturbed** is `dynamicStoreChangedCallback`. -/
theorem reaches_dynamicStoreChangedCallback {m : Monitoring O} {changedKeys : List Text}
    {state' : State O}
    (hidle : m.work = .idle) (hkeys : ∀ key, key ∈ m.pending ↔ key ∈ changedKeys)
    (hrun : dynamicStoreChangedCallback os m.store changedKeys m.state = .ok state') :
    Reaches (Monitoring.Step os) m ⟨m.store, [], state', .idle⟩ := by
  obtain ⟨store, pending, state, work⟩ := m
  obtain rfl : work = .idle := hidle
  obtain ⟨⟨helper, needsFullRefresh⟩, hkeysRun, hrun⟩ := Outcome.bind_eq_ok.mp hrun
  have called : Monitoring.Step os ⟨store, pending, state, .idle⟩
      (.dynamicStoreChanged changedKeys []) ⟨store, [], state, .keys changedKeys⟩ :=
    ⟨fun key => (hkeys key).trans (or_iff_left List.not_mem_nil).symm, rfl⟩
  refine .head ⟨_, called⟩ ?_
  have keys := reaches_processKeys os hkeysRun
  cases needsFullRefresh with
  | true => exact Relation.ReflTransGen.trans keys (reaches_fullRefresh os hrun)
  | false =>
      obtain rfl := Except.ok.inj hrun
      exact keys

end

/-! ### The observers -/

section
variable {os : System}

theorem keyed_refreshService {seen : Store} {listed listed' : ServiceMapping × Interfaces}
    {key : Text} (h : Keyed listed.2) (hrun : refreshService seen listed key = .ok listed') :
    Keyed listed'.2 := by
  rw [refreshService] at hrun
  cases hvalue : seen.lookup key with
  | none =>
      simp only [hvalue] at hrun
      rw [← Except.ok.inj hrun]
      exact h
  | some value =>
      simp only [hvalue] at hrun
      split at hrun
      · obtain ⟨serviceID, -, hrun⟩ := Outcome.bind_eq_ok.mp hrun
        obtain ⟨interface, hinterface, hrun⟩ := Outcome.bind_eq_ok.mp hrun
        rw [← Except.ok.inj hrun]
        exact h.insert (id_serviceInterface hinterface)
      · rw [← Except.ok.inj hrun]
        exact h

theorem keyed_finish {interfaces : Interfaces} (h : Keyed interfaces) :
    Keyed (removeIncomplete (setOtherFieldsFromIOCTL os interfaces)) := by
  intro name interface hfound
  rw [lookup_removeIncomplete, lookup_setOtherFieldsFromIOCTL] at hfound
  obtain ⟨hsome, -⟩ := Option.filter_eq_some_iff.mp hfound
  obtain ⟨interface₀, h₀, rfl⟩ := Option.map_eq_some_iff.mp hsome
  exact h name interface₀ h₀

/-- The observers know the table, and what a refresh has made so far is keyed. -/
structure Monitoring.Known (m : Monitoring O) : Prop where
  mirrored : Mirrored m.state.helper
  keyed : ∀ keys interfaces, m.work = .services keys interfaces → Keyed interfaces

theorem Monitoring.Known.step {m m' : Monitoring O} {event : Event O} (h : m.Known)
    (hstep : Step os m event m') : m'.Known := by
  obtain ⟨hallowed, hnext⟩ := hstep
  cases event with
  | change store changedKeys =>
      obtain rfl := Option.some.inj hnext
      exact ⟨h.mirrored, h.keyed⟩
  | dynamicStoreChanged changedKeys later =>
      obtain ⟨-, rfl⟩ := next_dynamicStoreChanged hnext
      exact ⟨h.mirrored, nofun⟩
  | ioNetworkInterfaceChanged =>
      obtain ⟨-, rfl⟩ := next_ioNetworkInterfaceChanged hnext
      exact ⟨h.mirrored, nofun⟩
  | turn seen =>
      obtain ⟨-, rfl⟩ | ⟨key, changedKeys, action, -, -, rfl⟩ |
        ⟨key, keys, interfaces, mapping, interfaces', hwork, hrun, rfl⟩ := turn_cases hnext
      · exact ⟨h.mirrored, nofun⟩
      · cases action with
        | notify interfaceName property =>
            exact ⟨h.mirrored.onPropertyChanged interfaceName property, nofun⟩
        | needsFullRefresh => exact ⟨h.mirrored, nofun⟩
        | ignored => exact ⟨h.mirrored, nofun⟩
      · refine ⟨h.mirrored, fun keys' i hi => ?_⟩
        obtain ⟨-, rfl⟩ := Work.services.inj hi
        exact keyed_refreshService (h.keyed _ _ hwork) hrun
  | copyKeyList =>
      obtain ⟨-, rfl⟩ := next_copyKeyList hnext
      -- no interface has been made yet
      refine ⟨h.mirrored, fun keys' i hi => ?_⟩
      obtain ⟨-, rfl⟩ := Work.services.inj hi
      exact fun _ _ hfound => by cases hfound
  | newInterfacesList =>
      obtain ⟨interfaces, hwork, rfl⟩ := next_newInterfacesList hnext
      exact ⟨h.mirrored.onNewInterfacesList (keyed_finish (h.keyed _ _ hwork)), nofun⟩
  | registerObserver observer =>
      obtain rfl := Option.some.inj hnext
      exact ⟨h.mirrored.registerObserver observer, h.keyed⟩
  | unregisterObserver observer =>
      obtain rfl := Option.some.inj hnext
      exact ⟨h.mirrored.unregisterObserver observer, h.keyed⟩
  | rehash networkInterfaces mapping =>
      obtain rfl := Option.some.inj hnext
      exact ⟨h.mirrored.perm hallowed.1, h.keyed⟩

/-- What agrees with an interface on the properties agrees with those it is equal to. -/
theorem sameProperties_of_beq {known lhs rhs : Interface} (h : SameProperties known lhs)
    (hbeq : (lhs == rhs) = true) : SameProperties known rhs := by
  have hequals : lhs.equals rhs = true := hbeq
  simp only [Interface.equals, Bool.and_eq_true, beq_iff_eq] at hequals
  obtain ⟨⟨⟨⟨⟨⟨⟨⟨⟨-, -⟩, halias⟩, -⟩, hinfos⟩, hgateways⟩, -⟩, henabled⟩, hconnected⟩, -⟩ := hequals
  exact ⟨h.isEnabled.trans henabled, h.isConnected.trans hconnected, h.aliasName.trans halias,
    BEq.trans h.ipAddressInfos hinfos, BEq.trans h.gateways hgateways⟩

/-- **At rest, the observers are up to date**: the map of each of them is the one of a refresh, but
for interfaces that are computed from a key whose change was missed. -/
theorem observers_agree {earlier : Store} {missed : List Text} {m m' : Monitoring O}
    (h : m.Begins os earlier missed) (hhistory : Reaches Helper.KeyedStep {} m.state.helper)
    (hrun : Reaches (Monitoring.Step os) m m') (hquiescent : m'.Quiescent)
    {mapping : ServiceMapping} {interfaces : Interfaces}
    (hrefresh : refreshInterfaces os m'.store = .ok (mapping, interfaces)) :
    ∀ obs ∈ m'.state.helper.observers, ∀ name,
      ¬ Touched m'.state.interfaceToServiceMapping missed name →
        Option.Rel SameProperties (replica (m'.state.helper.received obs) name)
          (interfaces.lookup name) := by
  have start : m.Known :=
    ⟨hhistory.invariant (fun _ _ _ ha hab => ha.step hab) mirrored_empty,
      fun keys interfaces hwork => by rw [h.idle] at hwork; cases hwork⟩
  have known : m'.Known := hrun.invariant (fun _ _ _ ha hab => ha.step hab) start
  intro obs hobs name huntouched
  have mirrored := known.mirrored.agrees obs hobs name
  have same := ((h.consistent hrun hquiescent).agrees (h.run hrun).wellFormed hrefresh).2.2 name
    huntouched
  exact rel_trans mirrored same fun _ _ _ => sameProperties_of_beq

end

/-! ### A link that went up unseen -/

/-- A second service, on `en1`. -/
def airportService : Text := "8C41D2F0-0A9B-4E37-9C55-D6E7F8091A2B".toList

/-- The link key of `en1`. -/
def en1Link : Text := stateInterfaceString ++ ("en1".toList ++ linkString)

def airportEntry : Dictionary where
  deviceName := "en1".toList
  hardware := "AirPort".toList
  userDefinedName := "Wi-Fi".toList

/-- A store with two services, and the states of their links. -/
def twoLinks (en0 en1 : Bool) : Store :=
  ((linkStore en0).insert (interfaceKey airportService) airportEntry).insert en1Link
    { active := en1 }

/-- The keys of the services. -/
def twoServices : List Text := [interfaceKey ethernetService, interfaceKey airportService]

/-- A system that lists these two first, in this order. -/
def twoPorts : System where
  listing keys := twoServices.filter (· ∈ keys) ++ (keys.filter (· ∉ twoServices)).sort alphabetical
  mem_listing := by
    intro keys key
    rw [List.mem_append, List.mem_filter, Finset.mem_sort, Finset.mem_filter, decide_eq_true_iff]
    constructor
    · rintro (⟨-, hmem⟩ | ⟨hmem, -⟩)
      · exact hmem
      · exact hmem
    · intro hmem
      by_cases hkey : key ∈ twoServices
      · exact .inl ⟨hkey, hmem⟩
      · exact .inr ⟨hmem, hkey⟩
  ifaddrs := sortedSystem.ifaddrs ++ [("en1".toList, #v[2, 0, 0, 0, 0, 2])]

theorem lookup_twoLinks {en0 en1 : Bool} {key : Text} {value : Dictionary}
    (h : (twoLinks en0 en1).lookup key = some value) :
    hasPrefix key stateInterfaceString = true ∨
      key = interfaceKey ethernetService ∧ value = ethernetEntry ∨
      key = interfaceKey airportService ∧ value = airportEntry := by
  by_cases hlink : key = en1Link
  · subst hlink
    exact .inl (hasPrefix_append _ _)
  · rw [twoLinks, AList.lookup_insert_ne hlink] at h
    by_cases hairport : key = interfaceKey airportService
    · subst hairport
      rw [AList.lookup_insert] at h
      exact .inr (.inr ⟨rfl, (Option.some.inj h).symm⟩)
    · rw [AList.lookup_insert_ne hairport] at h
      rcases lookup_linkStore h with ⟨rfl, -⟩ | hethernet
      · exact .inl (hasPrefix_append _ _)
      · exact .inr (.inl hethernet)

/-- What has a setup key is one of the services. -/
theorem lookup_setup_twoLinks {en0 en1 : Bool} {rest : Text} {value : Dictionary}
    (h : (twoLinks en0 en1).lookup (setupServiceString ++ rest) = some value) :
    setupServiceString ++ rest = interfaceKey ethernetService ∧ value = ethernetEntry ∨
      setupServiceString ++ rest = interfaceKey airportService ∧ value = airportEntry := by
  refine (lookup_twoLinks h).resolve_left fun hc => ?_
  rw [hasPrefix_setup] at hc
  cases hc

theorem isUUID_airportService : IsUUID airportService := by
  refine ⟨rfl, fun i c hc => ?_⟩
  have all : ∀ i (h : i < airportService.length),
      if i ∈ [8, 13, 18, 23] then airportService[i] = '-'
      else Support.Numeral.isDigit 16 airportService[i] = true := by decide
  obtain ⟨hi, rfl⟩ := List.getElem?_eq_some_iff.mp hc
  exact all i hi

theorem wellFormed_twoLinks (en0 en1 : Bool) : WellFormed (twoLinks en0 en1) where
  uuid := by
    intro serviceID _ _ hmem
    obtain ⟨value, hvalue⟩ := Option.isSome_iff_exists.mp (AList.lookup_isSome.mpr hmem)
    rcases lookup_setup_twoLinks hvalue with ⟨hkey, -⟩ | ⟨hkey, -⟩
    · rw [List.append_cancel_right (List.append_cancel_left hkey)]
      exact isUUID_ethernetService
    · rw [List.append_cancel_right (List.append_cancel_left hkey)]
      exact isUUID_airportService
  complete := by
    intro key value hmatch hvalue
    obtain ⟨segment, -, -, rfl⟩ := hmatch
    rcases lookup_setup_twoLinks hvalue with ⟨-, rfl⟩ | ⟨-, rfl⟩
    · exact ⟨_, _, _, rfl, rfl, rfl, by decide, by decide⟩
    · exact ⟨_, _, _, rfl, rfl, rfl, by decide, by decide⟩

theorem copyServiceKeys_twoLinks (en0 en1 : Bool) :
    copyServiceKeys twoPorts (twoLinks en0 en1) = twoServices := by
  have none : (((twoLinks en0 en1).keys.toFinset.filter
      (Matches setupServiceString interfaceString)).filter (· ∉ twoServices)) = ∅ := by
    refine Finset.filter_eq_empty_iff.mpr fun key hkey hc => hc ?_
    obtain ⟨hmem, hmatch⟩ := Finset.mem_filter.mp hkey
    obtain ⟨value, hvalue⟩ := Option.isSome_iff_exists.mp
      (AList.lookup_isSome.mpr (AList.mem_keys.mpr (List.mem_toFinset.mp hmem)))
    obtain ⟨segment, -, -, rfl⟩ := hmatch
    rcases lookup_setup_twoLinks hvalue with ⟨heq, -⟩ | ⟨heq, -⟩
    · rw [heq]
      exact List.mem_cons_self
    · rw [heq]
      exact List.mem_cons_of_mem _ List.mem_cons_self
  have all : ∀ key ∈ twoServices, key ∈ (twoLinks en0 en1).keys.toFinset.filter
      (Matches setupServiceString interfaceString) := by
    intro key hkey
    obtain ⟨serviceID, value, hne, hslash, rfl, hvalue⟩ : ∃ serviceID value, serviceID ≠ [] ∧
        '/' ∉ serviceID ∧ key = interfaceKey serviceID ∧
        (twoLinks en0 en1).lookup (interfaceKey serviceID) = some value := by
      rcases List.mem_pair.mp hkey with rfl | rfl
      · exact ⟨ethernetService, _, by decide, by decide, rfl, rfl⟩
      · exact ⟨airportService, _, by decide, by decide, rfl, rfl⟩
    have hmem : interfaceKey serviceID ∈ twoLinks en0 en1 :=
      AList.lookup_isSome.mp (Option.isSome_of_eq_some hvalue)
    exact Finset.mem_filter.mpr
      ⟨List.mem_toFinset.mpr (AList.mem_keys.mp hmem), serviceID, hne, hslash, rfl⟩
  rw [copyServiceKeys, twoPorts]
  dsimp only
  rw [none, Finset.sort_empty, List.append_nil,
    List.filter_eq_self.mpr fun key hkey => decide_eq_true (all key hkey)]

theorem refreshInterfaces_twoLinks (en0 en1 : Bool) : ∃ mapping interfaces interface,
    refreshInterfaces twoPorts (twoLinks en0 en1) = .ok (mapping, interfaces) ∧
      interfaces.lookup "en1".toList = some interface ∧ interface.isConnected = en1 := by
  rw [refreshInterfaces, copyServiceKeys_twoLinks]
  exact ⟨_, _, _, rfl, rfl, rfl⟩

theorem not_restructured_link {name : Text} :
    ¬ Restructured [stateInterfaceString ++ (name ++ linkString)] := by
  rintro ⟨key, hmem, segment, -, -, heq⟩
  obtain rfl := List.mem_singleton.mp hmem
  have := hasPrefix_setup (segment ++ interfaceString)
  rw [← heq, hasPrefix_append] at this
  cases this

/-- `en1` is computed from no link key but its own. -/
theorem not_touched_en1 (mapping : ServiceMapping) : ¬ Touched mapping [en0Link] "en1".toList := by
  rintro ⟨field, key, hreads, hmem⟩
  obtain rfl := List.mem_singleton.mp hmem
  have noSetup (rest : Text) : en0Link ≠ setupServiceString ++ rest := by
    intro heq
    have := hasPrefix_setup rest
    rw [← heq, en0Link, hasPrefix_append] at this
    cases this
  cases field with
  | isConnected =>
      have heq : en0Link = en1Link := hreads
      exact absurd heq (by decide)
  | aliasName =>
      obtain ⟨serviceID, -, heq | heq⟩ := hreads
      · exact noSetup _ heq
      · exact noSetup _ heq
  | ipAddressInfos =>
      obtain ⟨ending, hending, hkey⟩ := List.mem_flatMap.mp hreads
      rcases List.mem_cons.mp hkey with heq | hsetup
      · rcases List.mem_pair.mp hending with rfl | rfl
        · exact absurd heq (by decide)
        · exact absurd heq (by decide)
      · obtain ⟨serviceID, -, heq⟩ := List.mem_map.mp hsetup
        exact noSetup _ heq.symm

/-- The link of `en0` goes up unseen, then monitoring begins and the link of `en1` goes up.  An
observer is there. -/
structure GoesUp (m m' : Monitoring Unit) (interfaces : Interfaces) (interface : Interface) :
    Prop where
  begins : m.Begins twoPorts (twoLinks false false) [en0Link]
  history : Reaches Helper.KeyedStep {} m.state.helper
  run : Reaches (Monitoring.Step twoPorts) m m'
  quiescent : m'.Quiescent
  store : m'.store = twoLinks true true
  observed : () ∈ m'.state.helper.observers
  refresh : ∃ mapping, refreshInterfaces twoPorts m'.store = .ok (mapping, interfaces)
  listed : interfaces.lookup "en1".toList = some interface
  isConnected : interface.isConnected = true

theorem covers_en0Link : Covers [en0Link] (twoLinks false false) (twoLinks true false) := by
  intro other hmonitored hne
  refine covers_linkStore other hmonitored fun hsame => hne ?_
  rw [twoLinks, twoLinks]
  by_cases hlink : other = en1Link
  · rw [hlink, AList.lookup_insert, AList.lookup_insert]
  · rw [AList.lookup_insert_ne hlink, AList.lookup_insert_ne hlink]
    by_cases hairport : other = interfaceKey airportService
    · rw [hairport, AList.lookup_insert, AList.lookup_insert]
    · rw [AList.lookup_insert_ne hairport, AList.lookup_insert_ne hairport, hsame]

theorem exists_goesUp : ∃ m m' interfaces interface, GoesUp m m' interfaces interface := by
  obtain ⟨mapping, interfaces, -, hrefresh, -, -⟩ := refreshInterfaces_twoLinks false false
  obtain ⟨mapping', interfaces', interface', hrefresh', hlisted, hconnected⟩ :=
    refreshInterfaces_twoLinks true true
  -- the first enumeration, when both links were down
  let helper := observed.onNewInterfacesList interfaces
  let helper' := helper.onPropertyChanged "en1".toList
    (.isConnected (isInterfaceConnected (twoLinks true true) en1Link))
  let m : Monitoring Unit := ⟨twoLinks true false, [], ⟨helper, mapping⟩, .idle⟩
  let m' : Monitoring Unit := ⟨twoLinks true true, [], ⟨helper', mapping⟩, .idle⟩
  have registers : Helper.KeyedStep {} (.registerObserver (some ())) observed :=
    ⟨trivial, _, .refl _, rfl⟩
  have enumerates : observed.KeyedStep (.onNewInterfacesList interfaces) helper :=
    ⟨keyed_refreshInterfaces hrefresh, _, .refl _, rfl⟩
  have there : () ∈ helper'.observers := by
    rw [observers_onPropertyChanged]
    change () ∈ (observed.onNewInterfacesList interfaces).observers
    rw [Helper.onNewInterfacesList_eq, Helper.observers_notifyAll]
    exact Finset.mem_insert_self () ∅
  have changes : Monitoring.Step twoPorts m (.change (twoLinks true true) [en1Link])
      { m with store := twoLinks true true, pending := [en1Link] } :=
    ⟨⟨wellFormed_twoLinks true true, covers_insert _ _ _ _⟩, rfl⟩
  -- the callback is told of `en1` only
  have keys : processKeys (twoLinks true true) mapping [en1Link] helper =
      .ok (helper', false) := by
    rw [processKeys, en1Link, keyAction_link]
    rfl
  have called : Reaches (Monitoring.Step twoPorts)
      { m with store := twoLinks true true, pending := [en1Link] } m' :=
    reaches_dynamicStoreChangedCallback twoPorts rfl (fun _ => Iff.rfl)
      (Outcome.bind_eq_ok.mpr ⟨_, keys, rfl⟩)
  refine ⟨m, m', interfaces', interface', ?_⟩
  exact {
    begins := ⟨wellFormed_twoLinks true false, rfl, hrefresh, covers_en0Link,
      not_restructured_link⟩
    history := .more (.more .refl registers) enumerates
    run := .head ⟨_, changes⟩ called
    quiescent := ⟨rfl, rfl⟩
    store := rfl
    observed := there
    refresh := ⟨mapping', hrefresh'⟩
    listed := hlisted
    isConnected := hconnected }

theorem agrees_of_reaches_en1 : ∃ m m' interfaces interface, GoesUp m m' interfaces interface ∧
    ∃ known, m'.state.helper.networkInterfaces.lookup "en1".toList = some known ∧
      (known == interface) = true := by
  obtain ⟨m, m', interfaces, interface, goesUp⟩ := exists_goesUp
  obtain ⟨mapping, hrefresh⟩ := goesUp.refresh
  have same := (agrees_of_reaches goesUp.begins goesUp.run goesUp.quiescent hrefresh).2.2
    "en1".toList (not_touched_en1 _)
  rw [goesUp.listed] at same
  obtain ⟨known, hknown, hsame⟩ := exists_of_rel_some same
  exact ⟨m, m', interfaces, interface, goesUp, known, hknown, hsame⟩

theorem observers_agree_en1 : ∃ m m' interfaces interface, GoesUp m m' interfaces interface ∧
    ∃ known, replica (m'.state.helper.received ()) "en1".toList = some known ∧
      SameProperties known interface := by
  obtain ⟨m, m', interfaces, interface, goesUp⟩ := exists_goesUp
  obtain ⟨mapping, hrefresh⟩ := goesUp.refresh
  have same := observers_agree goesUp.begins goesUp.history goesUp.run goesUp.quiescent hrefresh
    () goesUp.observed "en1".toList (not_touched_en1 _)
  rw [goesUp.listed] at same
  obtain ⟨known, hknown, hsame⟩ := exists_of_rel_some same
  exact ⟨m, m', interfaces, interface, goesUp, known, hknown, hsame⟩

end MacOS

end NetworkInterface
