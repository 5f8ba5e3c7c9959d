import NetworkInterface.Support.LongestRun

/-!
# Support — Pieces

A list cut at the elements that do not satisfy `p`.  `MaximalRun p l r` holds of the runs of `l`
that are contained in no other, and `MaximalRuns p l ts` of the list of all of them.

`maximalRuns_intercalate`: when `l` is made of parts whose elements satisfy `p`, joined by an
element that does not, its maximal runs are the parts that are not empty, from left to right.
-/

namespace Support.Pieces
open Support.LongestRun (IsRun)

variable {α : Type*} {p : α → Bool}

/-- A run of `l` that no other run of `l` contains. -/
def MaximalRun (p : α → Bool) (l : List α) (r : Nat × Nat) : Prop :=
  IsRun p l r ∧ ∀ r', IsRun p l r' → r'.1 ≤ r.1 → r.1 + r.2 ≤ r'.1 + r'.2 → r' = r

/-- The elements at `r.1, …, r.1 + r.2 - 1` of `l`. -/
def slice (l : List α) (r : Nat × Nat) : List α := (l.drop r.1).take r.2

/-- `ts` are the maximal runs of `l`, each once, from left to right. -/
def MaximalRuns (p : α → Bool) (l : List α) (ts : List (List α)) : Prop :=
  ∃ rs : List (Nat × Nat), rs.Pairwise (fun r r' => r.1 < r'.1) ∧
    (∀ r, r ∈ rs ↔ MaximalRun p l r) ∧ ts = rs.map (slice l)

/-- The run, `k` places further on. -/
def shift (k : Nat) (r : Nat × Nat) : Nat × Nat := (k + r.1, r.2)

/-! ### Runs on the two sides of a separator -/

section
variable {t l : List α} {x : α}

/-- What stands before a list shifts its runs. -/
theorem isRun_shift {r : Nat × Nat} : IsRun p (t ++ l) (shift t.length r) ↔ IsRun p l r := by
  have at_ : ∀ i, (t ++ l)[t.length + i]? = l[i]? := fun i => by
    rw [List.getElem?_append_right (Nat.le_add_right _ _), Nat.add_sub_cancel_left]
  constructor
  · rintro ⟨pos, le, all⟩
    simp only [shift, List.length_append] at pos le all
    refine ⟨pos, by omega, fun i hi hi' y hy => ?_⟩
    exact all (t.length + i) (by omega) (by omega) y ((at_ i).trans hy)
  · rintro ⟨pos, le, all⟩
    refine ⟨pos, by simp only [shift, List.length_append]; omega, fun i hi hi' y hy => ?_⟩
    simp only [shift] at hi hi'
    obtain ⟨j, rfl⟩ := Nat.exists_eq_add_of_le (show t.length ≤ i by omega)
    exact all j (by omega) (by omega) y ((at_ j).symm.trans hy)

/-- A run lies on one side of an element that does not satisfy `p`. -/
theorem isRun_gap (hx : p x = false) {r : Nat × Nat} : IsRun p (t ++ x :: l) r ↔
    IsRun p t r ∨ ∃ r', IsRun p l r' ∧ r = shift (t.length + 1) r' := by
  have assoc : t ++ x :: l = (t ++ [x]) ++ l := by simp
  have length : (t ++ [x]).length = t.length + 1 := by simp
  constructor
  · intro h
    obtain ⟨first, size⟩ := r
    obtain ⟨pos, le, all⟩ := h
    by_cases before : first + size ≤ t.length
    · refine .inl ⟨pos, before, fun i hi hi' y hy => all i hi hi' y ?_⟩
      rwa [List.getElem?_append_left (by omega)]
    by_cases after : t.length < first
    · obtain ⟨k, rfl⟩ := Nat.exists_eq_add_of_le (show t.length + 1 ≤ first by omega)
      refine .inr ⟨(k, size), ?_, rfl⟩
      have run : IsRun p (t ++ x :: l) (shift (t.length + 1) (k, size)) := ⟨pos, le, all⟩
      rwa [assoc, ← length, isRun_shift] at run
    · -- the separator would be in the run
      have := all t.length (by omega) (by omega) x (by simp)
      rw [hx] at this
      cases this
  · rintro (h | ⟨r', h, rfl⟩)
    · exact h.append_right
    · rw [assoc, ← length]
      exact isRun_shift.mpr h

/-- So does a maximal run, which is one of that side. -/
theorem maximalRun_gap (hx : p x = false) {r : Nat × Nat} : MaximalRun p (t ++ x :: l) r ↔
    MaximalRun p t r ∨ ∃ r', MaximalRun p l r' ∧ r = shift (t.length + 1) r' := by
  have left : ∀ {r}, IsRun p t r → IsRun p (t ++ x :: l) r := fun h => (isRun_gap hx).mpr (.inl h)
  have right : ∀ {r}, IsRun p l r → IsRun p (t ++ x :: l) (shift (t.length + 1) r) := fun h =>
    (isRun_gap hx).mpr (.inr ⟨_, h, rfl⟩)
  constructor
  · rintro ⟨run, maximal⟩
    rcases (isRun_gap hx).mp run with h | ⟨r, h, rfl⟩
    · exact .inl ⟨h, fun r' h' => maximal r' (left h')⟩
    · refine .inr ⟨r, ⟨h, fun r' h' start stop => ?_⟩, rfl⟩
      have same := maximal _ (right h') (by simp only [shift]; omega) (by simp only [shift]; omega)
      simp only [shift, Prod.mk.injEq, Nat.add_left_cancel_iff] at same
      exact Prod.ext same.1 same.2
  · rintro (⟨h, maximal⟩ | ⟨r, ⟨h, maximal⟩, rfl⟩)
    · refine ⟨left h, fun r' run start stop => ?_⟩
      rcases (isRun_gap hx).mp run with h' | ⟨r'', h', rfl⟩
      · exact maximal r' h' start stop
      · have := h.1
        have := h.2.1
        simp only [shift] at start
        omega
    · refine ⟨right h, fun r' run start stop => ?_⟩
      rcases (isRun_gap hx).mp run with h' | ⟨r'', h', rfl⟩
      · have := h.1
        have := h'.2.1
        simp only [shift] at stop
        omega
      · simp only [shift] at start stop
        rw [maximal r'' h' (by omega) (by omega)]

/-- A list whose elements all satisfy `p` is one run. -/
theorem maximalRun_all (ht : ∀ y ∈ t, p y = true) {r : Nat × Nat} :
    MaximalRun p t r ↔ t ≠ [] ∧ r = (0, t.length) := by
  have whole : t ≠ [] → IsRun p t (0, t.length) := fun hne =>
    ⟨List.length_pos_iff.mpr hne, Nat.le_of_eq (Nat.zero_add _), fun i _ _ y hy =>
      ht y (List.mem_of_getElem? hy)⟩
  constructor
  · rintro ⟨⟨pos, le, all⟩, maximal⟩
    have hne : t ≠ [] := List.ne_nil_of_length_pos (by omega)
    exact ⟨hne, (maximal _ (whole hne) (Nat.zero_le _) (by simp only; omega)).symm⟩
  · rintro ⟨hne, rfl⟩
    refine ⟨whole hne, fun r' run start stop => ?_⟩
    have := run.2.1
    simp only at start stop
    exact Prod.ext (by simp only; omega) (by simp only; omega)

theorem slice_left : slice (t ++ l) (0, t.length) = t := by simp [slice]

theorem slice_shift (r : Nat × Nat) : slice (t ++ l) (shift t.length r) = slice l r := by
  rw [slice, slice, shift, List.drop_append, List.drop_of_length_le (Nat.le_add_right _ _),
    Nat.add_sub_cancel_left, List.nil_append]

end

/-! ### All of them -/

/-- **The maximal runs** of parts joined by a separator. -/
theorem maximalRuns_intercalate {x : α} (hx : p x = false) {ts : List (List α)} (hne : ts ≠ [])
    (hts : ∀ t ∈ ts, ∀ y ∈ t, p y = true) :
    MaximalRuns p (List.intercalate [x] ts) (ts.filter (!·.isEmpty)) := by
  induction ts with
  | nil => exact absurd rfl hne
  | cons t ts ih =>
      rw [List.forall_mem_cons] at hts
      cases ts with
      | nil =>
          have alone : List.intercalate [x] [t] = t := by simp [List.intercalate]
          rw [alone]
          cases t with
          | nil => exact ⟨[], .nil, fun r => by simp [maximalRun_all], rfl⟩
          | cons c t =>
              refine ⟨[(0, (c :: t).length)], List.pairwise_singleton _ _, fun r => ?_, ?_⟩
              · rw [maximalRun_all hts.1]
                simp
              · simp [slice]
      | cons u ts =>
          obtain ⟨rs, sorted, mem, heq⟩ := ih (List.cons_ne_nil _ _) hts.2
          have join : List.intercalate [x] (t :: u :: ts) =
              t ++ x :: List.intercalate [x] (u :: ts) := by
            simp [List.intercalate_cons_cons]
          rw [join]
          generalize List.intercalate [x] (u :: ts) = l at mem heq
          have length : (t ++ [x]).length = t.length + 1 := by simp
          have assoc : t ++ x :: l = (t ++ [x]) ++ l := by simp
          -- the runs further on, behind the first part and the separator
          have later : (u :: ts).filter (!·.isEmpty) =
              (rs.map (shift (t.length + 1))).map (slice (t ++ x :: l)) := by
            rw [heq, List.map_map]
            refine List.map_congr_left fun r _ => ?_
            rw [Function.comp_apply, assoc, ← length, slice_shift]
          have laterSorted :
              (rs.map (shift (t.length + 1))).Pairwise (fun r r' => r.1 < r'.1) :=
            List.pairwise_map.mpr (sorted.imp fun h => Nat.add_lt_add_left h _)
          cases t with
          | nil =>
              refine ⟨rs.map (shift 1), laterSorted, fun r => ?_, later⟩
              rw [maximalRun_gap hx, maximalRun_all hts.1]
              simp [← mem, eq_comm]
          | cons c t =>
              refine ⟨(0, (c :: t).length) :: rs.map (shift ((c :: t).length + 1)),
                List.pairwise_cons.mpr ⟨?_, laterSorted⟩, fun r => ?_, ?_⟩
              · rintro r hr
                obtain ⟨r, -, rfl⟩ := List.mem_map.mp hr
                exact Nat.add_pos_left (Nat.succ_pos _) _
              · rw [maximalRun_gap hx, maximalRun_all hts.1]
                simp [← mem, eq_comm]
              · rw [List.map_cons, slice_left, ← later]
                rfl

end Support.Pieces
