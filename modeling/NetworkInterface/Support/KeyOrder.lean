import Mathlib.Data.Prod.Lex

/-!
# Support — KeyOrder

Comparisons that are written apart from each other (`lt`, `le`, `eq`) and mean something on the
values that are `valid` only.  `StrictTotal` is what is wanted of the three together.

Three comparisons that read one key in a linear order (`ReadsKey`) have it
(`ReadsKey.strictTotal`), and the comparison of two fields, the second where the first ones are
equal, reads the lexicographic key (`ReadsKey.lex`).
-/

namespace Support.KeyOrder

variable {α γ σ β δ : Type*} [LinearOrder β] [LinearOrder δ]

/-- The laws of a strict total order, on the values that are `valid`. -/
structure StrictTotal (valid : α → Prop) (lt le eq : α → α → Prop) : Prop where
  irrefl : ∀ {a}, valid a → ¬ lt a a
  trans : ∀ {a b c}, valid a → valid b → valid c → lt a b → lt b c → lt a c
  /-- Exactly one of the three. -/
  trichotomy : ∀ {a b}, valid a → valid b →
    lt a b ∧ ¬ eq a b ∧ ¬ lt b a ∨ ¬ lt a b ∧ eq a b ∧ ¬ lt b a ∨ ¬ lt a b ∧ ¬ eq a b ∧ lt b a
  le_iff : ∀ {a b}, valid a → valid b → (le a b ↔ ¬ lt b a)

/-- The comparisons are those of a key. -/
structure ReadsKey (valid : α → Prop) (lt le eq : α → α → Prop) (key : α → β) : Prop where
  lt_iff : ∀ {a b}, valid a → valid b → (lt a b ↔ key a < key b)
  le_iff : ∀ {a b}, valid a → valid b → (le a b ↔ key a ≤ key b)
  eq_iff : ∀ {a b}, valid a → valid b → (eq a b ↔ key a = key b)

/-- **Comparisons of a key** are a strict total order. -/
theorem ReadsKey.strictTotal {valid : α → Prop} {lt le eq : α → α → Prop} {key : α → β}
    (h : ReadsKey valid lt le eq key) : StrictTotal valid lt le eq where
  irrefl ha := by rw [h.lt_iff ha ha]; exact lt_irrefl _
  trans ha hb hc hab hbc := by
    rw [h.lt_iff ha hb] at hab
    rw [h.lt_iff hb hc] at hbc
    exact (h.lt_iff ha hc).mpr (hab.trans hbc)
  trichotomy {a b} ha hb := by
    rw [h.lt_iff ha hb, h.lt_iff hb ha, h.eq_iff ha hb]
    rcases lt_trichotomy (key a) (key b) with hlt | heq | hgt
    · exact .inl ⟨hlt, hlt.ne, hlt.not_gt⟩
    · exact .inr (.inl ⟨heq.not_lt, heq, heq.not_gt⟩)
    · exact .inr (.inr ⟨hgt.not_gt, hgt.ne', hgt⟩)
  le_iff ha hb := by rw [h.le_iff ha hb, h.lt_iff hb ha, not_lt]

/-- **Two fields**, compared by the second where the first ones are equal. -/
theorem ReadsKey.lex {valid₁ : α → Prop} {lt₁ le₁ eq₁ : α → α → Prop} {key₁ : α → β}
    {valid₂ : γ → Prop} {lt₂ le₂ eq₂ : γ → γ → Prop} {key₂ : γ → δ} {lt le eq : σ → σ → Prop}
    (h₁ : ReadsKey valid₁ lt₁ le₁ eq₁ key₁) (h₂ : ReadsKey valid₂ lt₂ le₂ eq₂ key₂)
    (fst : σ → α) (snd : σ → γ)
    (hlt : ∀ s t, lt s t ↔ ¬ eq₁ (fst s) (fst t) ∧ lt₁ (fst s) (fst t) ∨
      eq₁ (fst s) (fst t) ∧ lt₂ (snd s) (snd t))
    (hle : ∀ s t, le s t ↔ ¬ eq₁ (fst s) (fst t) ∧ lt₁ (fst s) (fst t) ∨
      eq₁ (fst s) (fst t) ∧ le₂ (snd s) (snd t))
    (heq : ∀ s t, eq s t ↔ eq₁ (fst s) (fst t) ∧ eq₂ (snd s) (snd t)) :
    ReadsKey (fun s => valid₁ (fst s) ∧ valid₂ (snd s)) lt le eq
      (fun s => toLex (key₁ (fst s), key₂ (snd s))) where
  lt_iff {s t} hs ht := by
    rw [hlt, h₁.eq_iff hs.1 ht.1, h₁.lt_iff hs.1 ht.1, h₂.lt_iff hs.2 ht.2, Prod.Lex.lt_iff]
    exact or_congr (and_iff_right_of_imp fun h => h.ne) Iff.rfl
  le_iff {s t} hs ht := by
    rw [hle, h₁.eq_iff hs.1 ht.1, h₁.lt_iff hs.1 ht.1, h₂.le_iff hs.2 ht.2, Prod.Lex.le_iff]
    exact or_congr (and_iff_right_of_imp fun h => h.ne) Iff.rfl
  eq_iff {s t} hs ht := by
    rw [heq, h₁.eq_iff hs.1 ht.1, h₂.eq_iff hs.2 ht.2]
    exact Iff.symm (toLex_inj.trans Prod.mk_inj)

end Support.KeyOrder
