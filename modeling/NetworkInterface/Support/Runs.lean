import Mathlib.Logic.Relation

/-!
# Support — Runs

Runs of a system that takes labelled steps.  A step relation says which states a label can lead
to; a condition on states and labels, checked before each step, cuts it down (`Meeting`).

An invariant of the steps is one of the runs (`Reaches.invariant`), a system whose steps are
simulated has its runs simulated (`Reaches.simulates`), and a goal that one can always get closer to
is reached (`exists_reaches_of_measure`).  For a system whose steps are
a partial function, a list of labels is run by `exec`, and what it gives is reached
(`reaches_of_exec`).
-/

namespace Support.Runs

variable {σ ε : Type*}

/-- `s'` is reached from `s` by a run. -/
abbrev Reaches (step : σ → ε → σ → Prop) : σ → σ → Prop :=
  Relation.ReflTransGen fun s s' => ∃ e, step s e s'

/-- The steps before which `ok` holds of the state and of the label. -/
def Meeting (ok : σ → ε → Prop) (step : σ → ε → σ → Prop) (s : σ) (e : ε) (s' : σ) : Prop :=
  ok s e ∧ step s e s'

/-- **The invariant rule**. -/
theorem Reaches.invariant {step : σ → ε → σ → Prop} {Inv : σ → Prop} {s s' : σ}
    (hstep : ∀ a e b, Inv a → step a e b → Inv b) (h : Reaches step s s') (hs : Inv s) :
    Inv s' := by
  induction h with
  | refl => exact hs
  | tail _ hlast ih =>
      obtain ⟨e, he⟩ := hlast
      exact hstep _ e _ ih he

/-- **The simulation rule**: a system whose steps are steps of another one, or nothing, as `f` shows
them. -/
theorem Reaches.simulates {τ δ : Type*} {step : σ → ε → σ → Prop} {step' : τ → δ → τ → Prop}
    {f : σ → τ} {s s' : σ} (hstep : ∀ a e b, step a e b → f b = f a ∨ ∃ d, step' (f a) d (f b))
    (h : Reaches step s s') : Reaches step' (f s) (f s') := by
  induction h with
  | refl => exact .refl
  | tail _ hlast ih =>
      obtain ⟨e, he⟩ := hlast
      rcases hstep _ e _ he with hsame | ⟨d, hd⟩
      · rw [hsame]
        exact ih
      · exact .tail ih ⟨d, hd⟩

theorem Reaches.more {step : σ → ε → σ → Prop} {s s' s'' : σ} {e : ε} (h : Reaches step s s')
    (he : step s' e s'') : Reaches step s s'' :=
  .tail h ⟨e, he⟩

/-- **The progress rule**: where something short of the goal can always be reached that is closer to
it, the goal can be reached. -/
theorem exists_reaches_of_measure {step : σ → ε → σ → Prop} {Inv Goal : σ → Prop} (μ : σ → Nat)
    (closer : ∀ s, Inv s → ¬ Goal s → ∃ s', Reaches step s s' ∧ Inv s' ∧ μ s' < μ s) {s : σ}
    (hs : Inv s) : ∃ s', Reaches step s s' ∧ Inv s' ∧ Goal s' := by
  induction hμ : μ s using Nat.strongRecOn generalizing s with
  | ind n ih =>
      by_cases hgoal : Goal s
      · exact ⟨s, .refl, hs, hgoal⟩
      · obtain ⟨s₁, h₁, hs₁, hlt⟩ := closer s hs hgoal
        obtain ⟨s', h', hs', hgoal'⟩ := ih (μ s₁) (hμ ▸ hlt) hs₁ rfl
        exact ⟨s', h₁.trans h', hs', hgoal'⟩

/-- The steps of a partial function. -/
def Steps (next : σ → ε → Option σ) (s : σ) (e : ε) (s' : σ) : Prop := next s e = some s'

/-- The state a list of labels leads to. -/
def exec (next : σ → ε → Option σ) : σ → List ε → Option σ
  | s, []      => some s
  | s, e :: es => (next s e).bind fun s' => exec next s' es

theorem reaches_of_exec {next : σ → ε → Option σ} {es : List ε} {s s' : σ}
    (h : exec next s es = some s') : Reaches (Steps next) s s' := by
  induction es generalizing s with
  | nil =>
      obtain rfl := Option.some.inj h
      exact .refl
  | cons e es ih =>
      obtain ⟨s₁, h₁, h₂⟩ := Option.bind_eq_some_iff.mp h
      exact .head ⟨e, h₁⟩ (ih h₂)

/-- `next`, where `ok` holds. -/
def guarded (ok : σ → ε → Prop) [∀ s e, Decidable (ok s e)] (next : σ → ε → Option σ) (s : σ)
    (e : ε) : Option σ :=
  if ok s e then next s e else none

/-- A list of labels that `ok` lets through leads where it leads without `ok`. -/
theorem exec_of_guarded {ok : σ → ε → Prop} [∀ s e, Decidable (ok s e)]
    {next : σ → ε → Option σ} {es : List ε} {s s' : σ}
    (h : exec (guarded ok next) s es = some s') : exec next s es = some s' := by
  induction es generalizing s with
  | nil => exact h
  | cons e es ih =>
      obtain ⟨s₁, h₁, h₂⟩ := Option.bind_eq_some_iff.mp h
      exact Option.bind_eq_some_iff.mpr ⟨s₁, (Option.ite_none_right_eq_some.mp h₁).2, ih h₂⟩

theorem reaches_of_exec_guarded {ok : σ → ε → Prop} [∀ s e, Decidable (ok s e)]
    {next : σ → ε → Option σ} {es : List ε} {s s' : σ}
    (h : exec (guarded ok next) s es = some s') : Reaches (Meeting ok (Steps next)) s s' := by
  induction es generalizing s with
  | nil =>
      obtain rfl := Option.some.inj h
      exact .refl
  | cons e es ih =>
      obtain ⟨s₁, h₁, h₂⟩ := Option.bind_eq_some_iff.mp h
      exact .head ⟨e, Option.ite_none_right_eq_some.mp h₁⟩ (ih h₂)

end Support.Runs
