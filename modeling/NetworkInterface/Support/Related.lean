import Mathlib.Data.List.AList

/-!
# Support — Related

Two maps with the same keys, and under each key values that are related: at every key, `Option.Rel`
of the two look-ups.  What one map has under a key the other has too, and the maps stay related when
related values are put under a key (`rel_insert`), or when a value is put in one of them that is
related to the other's (`rel_insert_left`).
-/

namespace Support.Related

/-! ### At a key -/

section
variable {α β γ : Type*} {r : α → β → Prop}

theorem eq_none_of_rel_none {b : Option β} (h : Option.Rel r none b) : b = none := by
  cases h with
  | none => rfl

theorem exists_of_rel_some {a : Option α} {y : β} (h : Option.Rel r a (some y)) :
    ∃ x, a = some x ∧ r x y := by
  cases h with
  | some hxy => exact ⟨_, rfl, hxy⟩

theorem exists_of_some_rel {x : α} {b : Option β} (h : Option.Rel r (some x) b) :
    ∃ y, b = some y ∧ r x y := by
  cases h with
  | some hxy => exact ⟨_, rfl, hxy⟩

/-- What is related to what is related. -/
theorem rel_trans {q : β → γ → Prop} {p : α → γ → Prop} {a : Option α} {b : Option β} {c : Option γ}
    (hab : Option.Rel r a b) (hbc : Option.Rel q b c) (hcomp : ∀ x y z, r x y → q y z → p x z) :
    Option.Rel p a c := by
  cases hab with
  | none =>
      cases hbc with
      | none => exact .none
  | some hxy =>
      cases hbc with
      | some hyz => exact .some (hcomp _ _ _ hxy hyz)

end

/-! ### At every key -/

section
variable {κ α β : Type*} [DecidableEq κ] {r : α → β → Prop}
variable {t : AList fun _ : κ => α} {u : AList fun _ : κ => β} {x : α} {y : β}

theorem rel_insert (h : ∀ k, Option.Rel r (t.lookup k) (u.lookup k)) (k : κ) (hxy : r x y) :
    ∀ k', Option.Rel r ((t.insert k x).lookup k') ((u.insert k y).lookup k') := by
  intro k'
  by_cases hk : k' = k
  · subst hk
    rw [AList.lookup_insert, AList.lookup_insert]
    exact .some hxy
  · rw [AList.lookup_insert_ne hk, AList.lookup_insert_ne hk]
    exact h k'

theorem rel_insert_left (h : ∀ k, Option.Rel r (t.lookup k) (u.lookup k)) {k : κ}
    (hy : u.lookup k = some y) (hxy : r x y) :
    ∀ k', Option.Rel r ((t.insert k x).lookup k') (u.lookup k') := by
  intro k'
  by_cases hk : k' = k
  · subst hk
    rw [AList.lookup_insert, hy]
    exact .some hxy
  · rw [AList.lookup_insert_ne hk]
    exact h k'

end

end Support.Related
