import Mathlib.Tactic.Common
import Mathlib.Data.List.Basic

/-!
# Support — LongestRun

Runs of consecutive elements satisfying a predicate `p` in a list, each given by its first index
and its length.  `Longest p l` holds of the leftmost of the longest runs of `l`, and of `none`
when no element satisfies `p`.

A scan from left to right keeps two runs: the longest one that is closed, and the one still
open at the scan's end.  `Longest.append_gap` is the step over an element that closes the open
run, and `Longest.append_run` says which of the two runs is the longest when the scan stops.
-/

namespace Support.LongestRun

variable {α : Type*} {p : α → Bool}

/-- The elements at `r.1, …, r.1 + r.2 - 1` of `l` exist and satisfy `p`. -/
def IsRun (p : α → Bool) (l : List α) (r : Nat × Nat) : Prop :=
  0 < r.2 ∧ r.1 + r.2 ≤ l.length ∧ ∀ i, r.1 ≤ i → i < r.1 + r.2 → ∀ x ∈ l[i]?, p x = true

/-- The leftmost of the longest runs of `l`. -/
def Longest (p : α → Bool) (l : List α) : Option (Nat × Nat) → Prop
  | none   => ∀ x ∈ l, p x = false
  | some r => IsRun p l r ∧ ∀ r', IsRun p l r' → r'.2 < r.2 ∨ r'.2 = r.2 ∧ r.1 ≤ r'.1

/-- The longer of two runs, the first when they are of one length. -/
def longer (closed opened : Option (Nat × Nat)) : Option (Nat × Nat) :=
  match closed, opened with
  | closed, none        => closed
  | none, some o        => some o
  | some c, some o      => if c.2 < o.2 then some o else some c

theorem longest_nil : Longest p [] none := by simp [Longest]

theorem not_isRun_of_longest_none {l : List α} (h : Longest p l none) (r : Nat × Nat) :
    ¬ IsRun p l r := by
  rintro ⟨pos, le, all⟩
  have hx : l[r.1]? = some l[r.1] := List.getElem?_eq_getElem (by omega)
  have := all r.1 (Nat.le_refl _) (by omega) l[r.1] hx
  rw [h _ (List.getElem_mem _)] at this
  cases this

theorem IsRun.append_right {l m : List α} {r : Nat × Nat} (h : IsRun p l r) :
    IsRun p (l ++ m) r := by
  obtain ⟨pos, le, all⟩ := h
  refine ⟨pos, by rw [List.length_append]; omega, fun i hi hi' x hx => all i hi hi' x ?_⟩
  rwa [List.getElem?_append_left (by omega)] at hx

theorem isRun_suffix {l run : List α} (hne : run ≠ []) (hp : ∀ x ∈ run, p x = true) :
    IsRun p (l ++ run) (l.length, run.length) := by
  refine ⟨List.length_pos_iff.mpr hne, by simp, fun i hi _ x hx => hp x ?_⟩
  rw [List.getElem?_append_right hi] at hx
  exact List.mem_of_getElem? hx

/-- A run of `l ++ run` lies in `l`, or starts after it, when `l` does not end in the middle of
one. -/
theorem isRun_append_cases {l run : List α} (hl : ∀ x ∈ l.getLast?, p x = false) {r : Nat × Nat}
    (h : IsRun p (l ++ run) r) :
    IsRun p l r ∨ l.length ≤ r.1 ∧ r.1 + r.2 ≤ l.length + run.length := by
  obtain ⟨pos, le, all⟩ := h
  rw [List.length_append] at le
  by_cases hin : r.1 + r.2 ≤ l.length
  · refine .inl ⟨pos, hin, fun i hi hi' x hx => all i hi hi' x ?_⟩
    rwa [List.getElem?_append_left (by omega)]
  · refine .inr ⟨?_, le⟩
    by_contra hstart
    -- the last element of `l` would be inside the run
    have last : (l ++ run)[l.length - 1]? = l.getLast? := by
      rw [List.getElem?_append_left (by omega), List.getLast?_eq_getElem?]
    have hx : l.getLast? = some l[l.length - 1] := by
      rw [List.getLast?_eq_getElem?, List.getElem?_eq_getElem (by omega)]
    have := all (l.length - 1) (by omega) (by omega) l[l.length - 1] (last.trans hx)
    rw [hl _ hx] at this
    cases this

/-- An element that does not satisfy `p` starts no run. -/
theorem Longest.append_gap {l : List α} {r : Option (Nat × Nat)} (h : Longest p l r) {x : α}
    (hx : p x = false) : Longest p (l ++ [x]) r := by
  have inside : ∀ {r : Nat × Nat}, IsRun p (l ++ [x]) r → IsRun p l r := by
    rintro r ⟨pos, le, all⟩
    rw [List.length_append, List.length_singleton] at le
    have bound : r.1 + r.2 ≤ l.length := by
      by_contra hb
      have := all l.length (by omega) (by omega) x (by simp)
      rw [hx] at this
      cases this
    refine ⟨pos, bound, fun i hi hi' y hy => all i hi hi' y ?_⟩
    rwa [List.getElem?_append_left (by omega)]
  cases r with
  | none =>
      intro y hy
      rcases List.mem_append.mp hy with hy | hy
      · exact h y hy
      · exact List.mem_singleton.mp hy ▸ hx
  | some r => exact ⟨h.1.append_right, fun r' hr' => h.2 r' (inside hr')⟩

/-- The longest run of `l ++ run`, where `run` is the run open at the end. -/
theorem Longest.append_run {l run : List α} {r : Option (Nat × Nat)} (h : Longest p l r)
    (hl : ∀ x ∈ l.getLast?, p x = false) (hp : ∀ x ∈ run, p x = true) :
    Longest p (l ++ run)
      (longer r (if run = [] then none else some (l.length, run.length))) := by
  by_cases hrun : run = []
  · subst hrun
    cases r <;> simpa [longer] using h
  rw [if_neg hrun]
  have suffix := isRun_suffix (l := l) hrun hp
  cases r with
  | none =>
      refine ⟨suffix, fun r' hr' => ?_⟩
      rcases isRun_append_cases hl hr' with inl | ⟨after, le⟩
      · exact absurd inl (not_isRun_of_longest_none h r')
      · simp only
        omega
  | some c =>
      simp only [longer]
      split
      · refine ⟨suffix, fun r' hr' => ?_⟩
        rcases isRun_append_cases hl hr' with inl | ⟨after, le⟩
        · have := h.2 r' inl
          simp only
          omega
        · simp only
          omega
      · refine ⟨h.1.append_right, fun r' hr' => ?_⟩
        rcases isRun_append_cases hl hr' with inl | ⟨after, le⟩
        · exact h.2 r' inl
        · have := h.1.2.1
          omega

/-- The element after the longest run does not extend it. -/
theorem Longest.stops {l : List α} {r : Nat × Nat} (h : Longest p l (some r)) :
    ∀ x ∈ l[r.1 + r.2]?, p x = false := by
  intro x hx
  by_contra hp
  have bound : r.1 + r.2 < l.length := (List.getElem?_eq_some_iff.mp hx).1
  have longerRun : IsRun p l (r.1, r.2 + 1) := by
    refine ⟨by simp, by simp only; omega, fun i hi hi' y hy => ?_⟩
    by_cases hlast : i = r.1 + r.2
    · subst hlast
      obtain rfl : x = y := Option.some.inj (hx.symm.trans hy)
      simpa using hp
    · exact h.1.2.2 i hi (by simp only at hi'; omega) y hy
  have := h.2 _ longerRun
  simp only at this
  omega

end Support.LongestRun
