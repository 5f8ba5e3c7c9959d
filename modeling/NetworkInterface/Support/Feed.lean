import Mathlib.Data.List.AList

/-!
# Support — Feed

Events each of which is about one key of a map.  `about_entries` finds those about a key in a list
made by going through the entries of a map.

In a `Feed`, an event acts on what the map holds at its key.
`replay` folds a list of events into a map, and `Fits` holds of a list whose every event comes when
the map allows it.

Events about different keys do not meet: what a list of events makes of a key, and whether its
events about that key are allowed, is decided by these events alone (`replay_apply`, `fits_iff`).
-/

namespace Support

/-! ### The events about one key -/

section
variable {κ ε : Type*} [DecidableEq κ] (key : ε → κ)

/-- The events about `k`. -/
def about (k : κ) (es : List ε) : List ε := es.filter fun e => key e = k

theorem about_append (k : κ) (es es' : List ε) :
    about key k (es ++ es') = about key k es ++ about key k es' := List.filter_append ..

theorem about_cons_self (e : ε) (es : List ε) :
    about key (key e) (e :: es) = e :: about key (key e) es :=
  List.filter_cons_of_pos (by simp)

theorem about_cons_ne {e : ε} {k : κ} (h : key e ≠ k) (es : List ε) :
    about key k (e :: es) = about key k es :=
  List.filter_cons_of_neg (by simpa using h)

theorem about_eq_self {k : κ} {es : List ε} (h : ∀ e ∈ es, key e = k) : about key k es = es :=
  List.filter_eq_self.mpr fun e he => decide_eq_true (h e he)

theorem about_eq_nil {k : κ} {es : List ε} (h : ∀ e ∈ es, key e ≠ k) : about key k es = [] :=
  List.filter_eq_nil_iff.mpr fun e he hd => h e he (of_decide_eq_true hd)

/-- When each entry gives events about its own key, the events about `k` are those its entry
gives. -/
theorem about_entries {β : Type*} (f : κ → β → List ε) (t : AList fun _ : κ => β)
    (hkey : ∀ x ∈ t.entries, ∀ e ∈ f x.1 x.2, key e = x.1) (k : κ) :
    about key k (t.entries.flatMap fun x => f x.1 x.2) = (t.lookup k).elim [] (f k) := by
  obtain ⟨l, hnodup⟩ := t
  change about key k (l.flatMap fun x => f x.1 x.2) = (l.dlookup k).elim [] (f k)
  change ∀ x ∈ l, _ at hkey
  induction l with
  | nil => rfl
  | cons x l ih =>
      obtain ⟨n, b⟩ := x
      obtain ⟨hn, hnodup'⟩ := List.nodupKeys_cons.mp hnodup
      have rest := ih hnodup' fun y hy => hkey y (List.mem_cons_of_mem _ hy)
      have own : ∀ e ∈ f n b, key e = n := hkey ⟨n, b⟩ List.mem_cons_self
      rw [List.flatMap_cons, about_append, rest]
      by_cases h : n = k
      · subst h
        rw [about_eq_self key own, List.dlookup_cons_eq, List.dlookup_eq_none.mpr hn]
        exact List.append_nil _
      · rw [about_eq_nil key fun e he hc => h ((own e he).symm.trans hc),
          List.dlookup_cons_ne l (⟨n, b⟩ : Sigma fun _ : κ => β) (Ne.symm h)]
        rfl

end

/-! ### Feeds -/

/-- Events `ε` about the keys `κ` of a map to `α`. -/
structure Feed (κ α ε : Type*) where
  /-- The key the event is about. -/
  key : ε → κ
  /-- What the event makes of what the map holds at its key. -/
  act : ε → Option α → Option α
  /-- What the map may hold at its key when the event comes. -/
  allows : ε → Option α → Prop

namespace Feed

variable {κ α ε : Type*} (F : Feed κ α ε)

/-- The events, all about one key, folded into what the map holds there. -/
def replayAt : Option α → List ε → Option α := List.foldl fun v e => F.act e v

/-- Every one of the events, all about one key, is allowed when it comes. -/
def FitsAt : Option α → List ε → Prop
  | _, []      => True
  | v, e :: es => F.allows e v ∧ FitsAt (F.act e v) es

variable [DecidableEq κ]

/-- The map once the event has come. -/
def push (m : κ → Option α) (e : ε) : κ → Option α :=
  Function.update m (F.key e) (F.act e (m (F.key e)))

/-- The events folded into the map. -/
def replay : (κ → Option α) → List ε → κ → Option α := List.foldl F.push

/-- Every one of the events is allowed when it comes. -/
def Fits : (κ → Option α) → List ε → Prop
  | _, []      => True
  | m, e :: es => F.allows e (m (F.key e)) ∧ Fits (F.push m e) es

theorem push_self (m : κ → Option α) (e : ε) : F.push m e (F.key e) = F.act e (m (F.key e)) :=
  Function.update_self ..

theorem push_ne (m : κ → Option α) {e : ε} {k : κ} (h : F.key e ≠ k) : F.push m e k = m k :=
  Function.update_of_ne (Ne.symm h) ..

theorem replay_append (m : κ → Option α) (es es' : List ε) :
    F.replay m (es ++ es') = F.replay (F.replay m es) es' := List.foldl_append ..

theorem fits_append {m : κ → Option α} {es es' : List ε} :
    F.Fits m (es ++ es') ↔ F.Fits m es ∧ F.Fits (F.replay m es) es' := by
  induction es generalizing m with
  | nil => exact (iff_of_eq (true_and _)).symm
  | cons e es ih => exact (and_congr_right fun _ => ih).trans and_assoc.symm

/-- **What a list of events makes of a key** is what its events about that key make of it. -/
theorem replay_apply (m : κ → Option α) (es : List ε) (k : κ) :
    F.replay m es k = F.replayAt (m k) (about F.key k es) := by
  induction es generalizing m with
  | nil => rfl
  | cons e es ih =>
      refine (ih (F.push m e)).trans ?_
      by_cases h : F.key e = k
      · subst h
        rw [push_self, about_cons_self F.key]
        rfl
      · rw [push_ne F m h, about_cons_ne F.key h]

/-- **Whether a list of events fits a map** is decided key by key. -/
theorem fits_iff {m : κ → Option α} {es : List ε} :
    F.Fits m es ↔ ∀ k, F.FitsAt (m k) (about F.key k es) := by
  induction es generalizing m with
  | nil => exact ⟨fun _ _ => trivial, fun _ => trivial⟩
  | cons e es ih =>
      constructor
      · rintro ⟨hallow, hrest⟩ k
        have hk := ih.mp hrest k
        by_cases h : F.key e = k
        · subst h
          rw [push_self] at hk
          rw [about_cons_self F.key]
          exact ⟨hallow, hk⟩
        · rw [push_ne F m h] at hk
          rwa [about_cons_ne F.key h]
      · intro hall
        have hself := hall (F.key e)
        rw [about_cons_self F.key] at hself
        refine ⟨hself.1, ih.mpr fun k => ?_⟩
        by_cases h : F.key e = k
        · subst h
          rw [push_self]
          exact hself.2
        · have hk := hall k
          rw [about_cons_ne F.key h] at hk
          rwa [push_ne F m h]

end Feed

end Support
