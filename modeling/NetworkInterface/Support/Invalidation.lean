import Mathlib.Data.Set.Insert

/-!
# Support — Invalidation

A cache of what is computed from the entries of a store, kept up by whoever is told which keys have
changed.

A `View` says of each item which keys it reads.  What is cached of an item is as good as new
(`UpTo`) when it is what the item is worth in the store, or the item reads a key that is known to
have changed and not been dealt with.  A change of the store keeps this when its keys join those
(`UpTo.change`), and so does dealing with a key, when the items that read it are computed again
(`UpTo.computed`, `UpTo.handled`): from entries that may be older than the store's, as long as their
keys are still to be dealt with.  Once no key is left, the cache is right (`UpTo.exact`).
-/

namespace Support

/-- Items `ι`, and what each is worth in a store whose keys are `κ`. -/
structure View (σ κ β ι ω : Type*) where
  get : σ → κ → β
  /-- The keys the item is computed from. -/
  reads : ι → Set κ
  value : ι → σ → ω
  value_congr : ∀ {i s s'}, (∀ k ∈ reads i, get s k = get s' k) → value i s = value i s'

namespace View

variable {σ κ β ι ω γ : Type*} (V : View σ κ β ι ω)

/-- The entries are the same but at the keys of `P`. -/
def SameBut (P : Set κ) (s s' : σ) : Prop := ∀ k ∉ P, V.get s k = V.get s' k

/-- What is cached of the item, `c`, is what `same` makes of its worth, unless it reads a key of
`P`. -/
def UpTo (same : γ → ω → Prop) (P : Set κ) (s : σ) (i : ι) (c : γ) : Prop :=
  (∀ k ∈ V.reads i, k ∉ P) → same c (V.value i s)

variable {V} {same : γ → ω → Prop} {P Q : Set κ} {s s' : σ} {i : ι} {c : γ}

theorem UpTo.mono (h : V.UpTo same P s i c) (hsub : P ⊆ Q) : V.UpTo same Q s i c :=
  fun hreads => h fun k hk hP => hreads k hk (hsub hP)

/-- The store changes. -/
theorem UpTo.change (h : V.UpTo same P s i c) (hsame : V.SameBut Q s s') :
    V.UpTo same (P ∪ Q) s' i c := by
  intro hreads
  have old := h fun k hk hP => hreads k hk (.inl hP)
  rwa [V.value_congr fun k hk => hsame k fun hQ => hreads k hk (.inr hQ)] at old

/-- The item is computed again, from what is read. -/
theorem UpTo.computed (hsame : V.SameBut P s s') (h : same c (V.value i s')) :
    V.UpTo same P s i c := by
  intro hreads
  rwa [V.value_congr fun k hk => hsame k (hreads k hk)]

/-- A key that the item does not read is dealt with. -/
theorem UpTo.handled {k : κ} (h : V.UpTo same (insert k P) s i c) (hk : k ∉ V.reads i) :
    V.UpTo same P s i c := by
  intro hreads
  refine h fun j hj hmem => ?_
  rcases hmem with rfl | hP
  · exact hk hj
  · exact hreads j hj hP

/-- **Nothing is left** to be dealt with. -/
theorem UpTo.exact (h : V.UpTo same ∅ s i c) : same c (V.value i s) := h fun _ _ => id

end View

end Support
