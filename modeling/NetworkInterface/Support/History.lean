import Mathlib.Data.List.Infix

/-!
# Support — History

Histories that grow at their end.  A statement about every moment of a history, with what came
before and after it, is kept by one more moment when that moment fits what came before, and every
statement about an earlier one stands with the new one after it (`throughout_concat`).
-/

namespace Support.History

variable {ε : Type*}

/-- `P before e after` at each moment `e` of the history. -/
def Throughout (P : List ε → ε → List ε → Prop) (history : List ε) : Prop :=
  ∀ before e after, history = before ++ e :: after → P before e after

theorem throughout_nil (P : List ε → ε → List ε → Prop) : Throughout P [] :=
  fun _ _ _ h => absurd h (List.append_ne_nil_of_right_ne_nil _ (List.cons_ne_nil _ _)).symm

theorem throughout_concat {P Q : List ε → ε → List ε → Prop} {history : List ε} {e : ε}
    (h : Throughout P history) (hlast : Q history e [])
    (hearlier : ∀ before e' after, history = before ++ e' :: after → P before e' after →
      Q before e' (after ++ [e])) : Throughout Q (history ++ [e]) := by
  intro before e' after heq
  rcases List.eq_nil_or_concat after with rfl | ⟨middle, last, rfl⟩
  · obtain ⟨rfl, hsingle⟩ := List.append_inj' heq rfl
    rw [← (List.cons.inj hsingle).1]
    exact hlast
  · rw [List.concat_eq_append, ← List.cons_append, ← List.append_assoc] at heq
    obtain ⟨rfl, hsingle⟩ := List.append_inj' heq rfl
    rw [List.concat_eq_append, ← (List.cons.inj hsingle).1]
    exact hearlier before e' middle rfl (h before e' middle rfl)

/-- Statements that look back only. -/
theorem throughout_concat_back {P : List ε → ε → Prop} {history : List ε} {e : ε}
    (h : Throughout (fun before e _ => P before e) history) (hlast : P history e) :
    Throughout (fun before e _ => P before e) (history ++ [e]) :=
  throughout_concat h hlast fun _ _ _ _ hearlier => hearlier

end Support.History
