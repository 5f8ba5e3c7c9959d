import Mathlib.Data.Finmap
import Mathlib.Data.Fintype.EquivFin

/-!
# Support — Separation

Programs that allocate and free blocks, and a separation logic for them.  A heap is a finite map
from addresses to blocks, and an allocator may put a new block anywhere but where there is one: an
address that was freed can come again.  A program that reads, writes or frees where no block is
has no result.

`Triple P c Q`: on a part of the heap that `P` describes, `c` has a result, and `Q` describes
what becomes of that part; the rest of the heap stays as it is (`Triple.frame`).
-/

namespace Support.Separation

variable {β α γ : Type}

/-- The blocks that are allocated, each at its address. -/
abbrev Heap (β : Type) := Finmap fun _ : Nat => β

/-- Where a new block goes. -/
structure Allocator (β : Type) where
  address : Heap β → Nat
  fresh : ∀ heap, address heap ∉ heap

/-- The lowest address that is free. -/
def Allocator.lowest : Allocator β where
  address heap := Nat.find (Infinite.exists_notMem_finset heap.keys)
  fresh heap h := Nat.find_spec (Infinite.exists_notMem_finset heap.keys) (Finmap.mem_keys.mpr h)

/-- A program.  `none`: it does something undefined. -/
abbrev Program (β α : Type) := StateT (Heap β) Option α

/-! ### The instructions -/

/-- A new block. -/
def alloc (allocator : Allocator β) (b : β) : Program β Nat := fun heap =>
  some (allocator.address heap, heap.insert (allocator.address heap) b)

/-- The block at an address. -/
def load (a : Nat) : Program β β := fun heap => (heap.lookup a).map (·, heap)

/-- The block at an address is replaced. -/
def store (a : Nat) (b : β) : Program β Unit := fun heap =>
  if a ∈ heap then some ((), heap.insert a b) else none

/-- The block at an address goes. -/
def free (a : Nat) : Program β Unit := fun heap =>
  if a ∈ heap then some ((), heap.erase a) else none

/-- Undefined behaviour. -/
def undefined : Program β α := fun _ => none

/-! ### Assertions -/

/-- What a part of the heap is like. -/
abbrev Assertion (β : Type) := Heap β → Prop

/-- There is nothing. -/
def emp : Assertion β := fun heap => heap = ∅

/-- There is one block. -/
def pointsTo (a : Nat) (b : β) : Assertion β := fun heap => heap = Finmap.singleton a b

/-- The two parts are apart. -/
def sep (P Q : Assertion β) : Assertion β := fun heap =>
  ∃ p q, Finmap.Disjoint p q ∧ heap = p ∪ q ∧ P p ∧ Q q

/-- All the parts are apart. -/
def sepAll : List (Assertion β) → Assertion β
  | []      => emp
  | P :: Ps => sep P (sepAll Ps)

/-- A condition that has nothing to do with the heap. -/
def only (p : Prop) (P : Assertion β) : Assertion β := fun heap => p ∧ P heap

/-- One of a family. -/
def any {ι : Sort*} (P : ι → Assertion β) : Assertion β := fun heap => ∃ i, P i heap

theorem sep_comm (P Q : Assertion β) : sep P Q = sep Q P := by
  have swap (P Q : Assertion β) {heap : Heap β} (h : sep P Q heap) : sep Q P heap := by
    obtain ⟨p, q, hdisj, rfl, hp, hq⟩ := h
    exact ⟨q, p, hdisj.symm, Finmap.union_comm_of_disjoint hdisj, hq, hp⟩
  funext heap
  exact propext ⟨swap P Q, swap Q P⟩

theorem sep_assoc (P Q R : Assertion β) : sep (sep P Q) R = sep P (sep Q R) := by
  funext heap
  refine propext ⟨?_, ?_⟩
  · rintro ⟨_, r, hdisj, rfl, ⟨p, q, hpq, rfl, hp, hq⟩, hr⟩
    obtain ⟨hpr, hqr⟩ := (Finmap.disjoint_union_left p q r).mp hdisj
    exact ⟨p, q ∪ r, (Finmap.disjoint_union_right p q r).mpr ⟨hpq, hpr⟩, Finmap.union_assoc, hp,
      q, r, hqr, rfl, hq, hr⟩
  · rintro ⟨p, _, hdisj, rfl, hp, q, r, hqr, rfl, hq, hr⟩
    obtain ⟨hpq, hpr⟩ := (Finmap.disjoint_union_right p q r).mp hdisj
    exact ⟨p ∪ q, r, (Finmap.disjoint_union_left p q r).mpr ⟨hpr, hqr⟩, Finmap.union_assoc.symm,
      ⟨p, q, hpq, rfl, hp, hq⟩, hr⟩

theorem emp_sep (P : Assertion β) : sep emp P = P := by
  funext heap
  refine propext ⟨?_, fun h =>
    ⟨∅, heap, Finmap.disjoint_empty heap, Finmap.empty_union.symm, rfl, h⟩⟩
  rintro ⟨_, p, -, rfl, rfl, hp⟩
  rw [Finmap.empty_union]
  exact hp

theorem sep_emp (P : Assertion β) : sep P emp = P := by rw [sep_comm, emp_sep]

theorem sep_left_comm (P Q R : Assertion β) : sep P (sep Q R) = sep Q (sep P R) := by
  rw [← sep_assoc, sep_comm P Q, sep_assoc]

theorem sep_mono {P P' Q Q' : Assertion β} (hP : ∀ heap, P heap → P' heap)
    (hQ : ∀ heap, Q heap → Q' heap) {heap : Heap β} (h : sep P Q heap) : sep P' Q' heap := by
  obtain ⟨p, q, hdisj, heq, hp, hq⟩ := h
  exact ⟨p, q, hdisj, heq, hP p hp, hQ q hq⟩

theorem only_sep (p : Prop) (P Q : Assertion β) : sep (only p P) Q = only p (sep P Q) := by
  funext heap
  refine propext ⟨?_, ?_⟩
  · rintro ⟨part, q, hdisj, heq, ⟨hp, hP⟩, hQ⟩
    exact ⟨hp, part, q, hdisj, heq, hP, hQ⟩
  · rintro ⟨hp, part, q, hdisj, heq, hP, hQ⟩
    exact ⟨part, q, hdisj, heq, ⟨hp, hP⟩, hQ⟩

theorem any_sep {ι : Sort*} (P : ι → Assertion β) (Q : Assertion β) :
    sep (any P) Q = any fun i => sep (P i) Q := by
  funext heap
  refine propext ⟨?_, ?_⟩
  · rintro ⟨p, q, hdisj, heq, ⟨i, hP⟩, hQ⟩
    exact ⟨i, p, q, hdisj, heq, hP, hQ⟩
  · rintro ⟨i, p, q, hdisj, heq, hP, hQ⟩
    exact ⟨p, q, hdisj, heq, ⟨i, hP⟩, hQ⟩

theorem sepAll_append (Ps Qs : List (Assertion β)) :
    sepAll (Ps ++ Qs) = sep (sepAll Ps) (sepAll Qs) := by
  induction Ps with
  | nil => exact (emp_sep _).symm
  | cons P Ps ih => rw [List.cons_append, sepAll, ih, sepAll, sep_assoc]

/-- The parts in another order. -/
theorem sepAll_perm {Ps Qs : List (Assertion β)} (h : Ps.Perm Qs) : sepAll Ps = sepAll Qs := by
  induction h with
  | nil => rfl
  | cons P _ ih => rw [sepAll, sepAll, ih]
  | swap P Q Ps => exact sep_left_comm Q P (sepAll Ps)
  | trans _ _ ih₁ ih₂ => exact ih₁.trans ih₂

/-! ### Triples -/

/-- On a part that `P` describes, whatever else there is, `c` has a result, and makes of it what
`Q` describes. -/
def Triple (P : Assertion β) (c : Program β α) (Q : α → Assertion β) : Prop :=
  ∀ frame part, Finmap.Disjoint frame part → P part →
    ∃ a part', c (frame ∪ part) = some (a, frame ∪ part') ∧ Finmap.Disjoint frame part' ∧ Q a part'

variable {P P' : Assertion β} {Q Q' : α → Assertion β} {R : γ → Assertion β}

namespace Triple

theorem pure {a : α} (h : ∀ heap, P heap → Q a heap) : Triple P (Pure.pure a) Q :=
  fun _ part hdisj hP => ⟨a, part, rfl, hdisj, h part hP⟩

theorem bind {c : Program β α} {f : α → Program β γ} (hc : Triple P c Q)
    (hf : ∀ a, Triple (Q a) (f a) R) : Triple P (c >>= f) R := by
  intro frame part hdisj hP
  obtain ⟨a, part₁, hrun, hdisj₁, hQ⟩ := hc frame part hdisj hP
  obtain ⟨b, part₂, hrun', hdisj₂, hR⟩ := hf a frame part₁ hdisj₁ hQ
  refine ⟨b, part₂, ?_, hdisj₂, hR⟩
  change (c (frame ∪ part)).bind _ = _
  rw [hrun]
  exact hrun'

theorem consequence {c : Program β α} (hc : Triple P c Q) (hP : ∀ heap, P' heap → P heap)
    (hQ : ∀ a heap, Q a heap → Q' a heap) : Triple P' c Q' := by
  intro frame part hdisj hP'
  obtain ⟨a, part', hrun, hdisj', hQa⟩ := hc frame part hdisj (hP part hP')
  exact ⟨a, part', hrun, hdisj', hQ a part' hQa⟩

/-- **The frame rule**. -/
theorem frame {c : Program β α} (hc : Triple P c Q) (F : Assertion β) :
    Triple (sep P F) c fun a => sep (Q a) F := by
  rintro frame _ hdisj ⟨p, f, hpf, rfl, hP, hF⟩
  obtain ⟨hp, hf⟩ := (Finmap.disjoint_union_right frame p f).mp hdisj
  obtain ⟨a, p', hrun, hdisj', hQ⟩ :=
    hc (frame ∪ f) p ((Finmap.disjoint_union_left frame f p).mpr ⟨hp, hpf.symm⟩) hP
  obtain ⟨hp', hf'⟩ := (Finmap.disjoint_union_left frame f p').mp hdisj'
  refine ⟨a, p' ∪ f, ?_, (Finmap.disjoint_union_right frame p' f).mpr ⟨hp', hf⟩,
    p', f, hf'.symm, rfl, hQ, hF⟩
  rw [Finmap.union_comm_of_disjoint hpf, ← Finmap.union_assoc, hrun, Finmap.union_assoc,
    Finmap.union_comm_of_disjoint hf']

/-- A condition that has nothing to do with the heap. -/
theorem only {p : Prop} {c : Program β α} (h : p → Triple P c Q) :
    Triple (Separation.only p P) c Q := by
  rintro frame part hdisj ⟨hp, hP⟩
  exact h hp frame part hdisj hP

theorem any {ι : Sort*} {P : ι → Assertion β} {c : Program β α}
    (h : ∀ i, Triple (P i) c Q) : Triple (Separation.any P) c Q := by
  rintro frame part hdisj ⟨i, hP⟩
  exact h i frame part hdisj hP

/-- The part that is used stands behind another one. -/
theorem frameLeft {c : Program β α} (hc : Triple P c Q) (F : Assertion β) :
    Triple (sep F P) c fun a => sep F (Q a) := by
  have h := hc.frame F
  rw [sep_comm F P]
  exact h.consequence (fun _ h => h) fun a heap h => sep_comm (Q a) F ▸ h

/-- What the program makes stands beside what there is. -/
theorem beside {c : Program β α} (hc : Triple emp c Q) (F : Assertion β) :
    Triple F c fun a => sep (Q a) F := by
  have h := hc.frame F
  rwa [emp_sep] at h

/-- The second of several parts is used up. -/
theorem second {A : Assertion β} {Ps : List (Assertion β)} {c : Program β α}
    (hc : Triple P c fun _ => emp) :
    Triple (sepAll (A :: P :: Ps)) c fun _ => sepAll (A :: Ps) := by
  refine ((hc.frame (sepAll Ps)).frameLeft A).consequence (fun _ h => h) fun _ heap h => ?_
  rwa [emp_sep] at h

/-- What is read in one of several parts. -/
theorem reads {P : Assertion β} {Ps : List (Assertion β)} {c : Program β α} {v : α}
    (hc : Triple P c fun a => Separation.only (a = v) P) (hmem : P ∈ Ps) :
    Triple (sepAll Ps) c fun a => Separation.only (a = v) (sepAll Ps) := by
  obtain ⟨l, r, rfl⟩ := List.append_of_mem hmem
  rw [sepAll_perm List.perm_middle]
  refine (hc.frame (sepAll (l ++ r))).consequence (fun _ h => h) fun a heap h => ?_
  rwa [only_sep] at h

/-- On a whole heap. -/
theorem run {c : Program β α} (hc : Triple P c Q) {heap : Heap β} (h : P heap) :
    ∃ a heap', c heap = some (a, heap') ∧ Q a heap' := by
  obtain ⟨a, heap', hrun, -, hQ⟩ := hc ∅ heap (Finmap.disjoint_empty heap) h
  rw [Finmap.empty_union, Finmap.empty_union] at hrun
  exact ⟨a, heap', hrun, hQ⟩

end Triple

/-! ### The rules of the instructions -/

theorem notMem_of_disjoint {frame : Heap β} {a : Nat} {b : β}
    (h : Finmap.Disjoint frame (Finmap.singleton a b)) : a ∉ frame :=
  fun hmem => h a hmem ((Finmap.mem_singleton a a b).mpr rfl)

theorem disjoint_singleton {frame : Heap β} {a : Nat} (h : a ∉ frame) (b : β) :
    Finmap.Disjoint frame (Finmap.singleton a b) := by
  intro x hx hc
  rw [Finmap.mem_singleton] at hc
  exact h (hc ▸ hx)

theorem insert_eq_union {frame : Heap β} {a : Nat} (h : a ∉ frame) (b : β) :
    frame.insert a b = frame ∪ Finmap.singleton a b := by
  rw [Finmap.union_comm_of_disjoint (disjoint_singleton h b)]
  refine Finmap.ext_lookup fun x => ?_
  by_cases hx : x = a
  · subst hx
    have hmem : x ∈ (Finmap.singleton x b : Heap β) := (Finmap.mem_singleton x x b).mpr rfl
    rw [Finmap.lookup_insert, Finmap.lookup_union_left hmem, Finmap.lookup_singleton_eq]
  · rw [Finmap.lookup_insert_of_ne _ hx,
      Finmap.lookup_union_right fun hc => hx ((Finmap.mem_singleton x a b).mp hc)]

theorem mem_union_singleton (frame : Heap β) (a : Nat) (b : β) :
    a ∈ frame ∪ Finmap.singleton a b :=
  Finmap.mem_union.mpr (.inr ((Finmap.mem_singleton a a b).mpr rfl))

theorem lookup_union_singleton {frame : Heap β} {a : Nat} (h : a ∉ frame) (b : β) :
    (frame ∪ Finmap.singleton a b).lookup a = some b := by
  rw [Finmap.lookup_union_right h, Finmap.lookup_singleton_eq]

theorem triple_alloc (allocator : Allocator β) (b : β) :
    Triple emp (alloc allocator b) fun a => pointsTo a b := by
  rintro frame _ - rfl
  have fresh := allocator.fresh frame
  refine ⟨allocator.address frame, Finmap.singleton _ b, ?_, disjoint_singleton fresh b, rfl⟩
  rw [Finmap.union_empty, alloc, insert_eq_union fresh b]

theorem triple_load (a : Nat) (b : β) :
    Triple (pointsTo a b) (load a) fun b' => only (b' = b) (pointsTo a b) := by
  rintro frame _ hdisj rfl
  refine ⟨b, Finmap.singleton a b, ?_, hdisj, rfl, rfl⟩
  rw [load, lookup_union_singleton (notMem_of_disjoint hdisj)]
  rfl

theorem triple_store (a : Nat) (b b' : β) :
    Triple (pointsTo a b) (store a b') fun _ => pointsTo a b' := by
  rintro frame _ hdisj rfl
  have hmem := notMem_of_disjoint hdisj
  refine ⟨(), Finmap.singleton a b', ?_, disjoint_singleton hmem b', rfl⟩
  rw [store, if_pos (mem_union_singleton frame a b), ← insert_eq_union hmem b,
    Finmap.insert_insert, insert_eq_union hmem b']

theorem triple_free (a : Nat) (b : β) :
    Triple (pointsTo a b) (free a) fun _ => emp := by
  rintro frame _ hdisj rfl
  have hmem := notMem_of_disjoint hdisj
  refine ⟨(), ∅, ?_, (Finmap.disjoint_empty frame).symm, rfl⟩
  rw [free, if_pos (mem_union_singleton frame a b), Finmap.union_empty]
  refine congrArg (fun heap => some ((), heap)) (Finmap.ext_lookup fun x => ?_)
  by_cases hx : x = a
  · rw [hx, Finmap.lookup_erase, Finmap.lookup_eq_none.mpr hmem]
  · rw [Finmap.lookup_erase_ne hx, ← insert_eq_union hmem b, Finmap.lookup_insert_of_ne _ hx]

/-! ### What blocks there are -/

/-- The blocks of such a part are of a kind. -/
def Everywhere (K : Nat → β → Prop) (P : Assertion β) : Prop :=
  ∀ heap, P heap → ∀ a b, heap.lookup a = some b → K a b

/-- There are blocks in such a part. -/
def Occupied (P : Assertion β) : Prop := ∀ heap, P heap → heap ≠ ∅

section
variable {K : Nat → β → Prop}

theorem everywhere_emp : Everywhere K emp := by
  rintro _ rfl a b h
  cases h

theorem everywhere_pointsTo {a : Nat} {b : β} (h : K a b) : Everywhere K (pointsTo a b) := by
  rintro _ rfl x c hx
  have hmem : x ∈ (Finmap.singleton a b : Heap β) := Finmap.mem_of_lookup_eq_some hx
  rw [Finmap.mem_singleton] at hmem
  subst hmem
  rw [Finmap.lookup_singleton_eq] at hx
  exact Option.some.inj hx ▸ h

theorem Everywhere.sep (hP : Everywhere K P) (hQ : Everywhere K P') :
    Everywhere K (Separation.sep P P') := by
  rintro _ ⟨p, q, -, rfl, hp, hq⟩ a b h
  by_cases ha : a ∈ p
  · rw [Finmap.lookup_union_left ha] at h
    exact hP p hp a b h
  · rw [Finmap.lookup_union_right ha] at h
    exact hQ q hq a b h

theorem everywhere_sepAll {Ps : List (Assertion β)} (h : ∀ P ∈ Ps, Everywhere K P) :
    Everywhere K (sepAll Ps) := by
  induction Ps with
  | nil => exact everywhere_emp
  | cons P Ps ih =>
      exact (h P List.mem_cons_self).sep (ih fun P hP => h P (List.mem_cons_of_mem _ hP))

theorem occupied_pointsTo (a : Nat) (b : β) : Occupied (pointsTo a b) := by
  rintro _ rfl h
  have hmem : a ∈ (Finmap.singleton a b : Heap β) := (Finmap.mem_singleton a a b).mpr rfl
  rw [h] at hmem
  exact Finmap.notMem_empty hmem

theorem Occupied.sep (hP : Occupied P) : Occupied (Separation.sep P P') := by
  rintro _ ⟨p, q, -, rfl, hp, -⟩ h
  refine hP p hp (Finmap.ext_lookup fun a => ?_)
  have hlookup := congrArg (Finmap.lookup a) h
  by_cases ha : a ∈ p
  · rwa [Finmap.lookup_union_left ha] at hlookup
  · rw [Finmap.lookup_eq_none.mpr ha, Finmap.lookup_empty]

/-- Something stands beside the heap. -/
theorem ne_of_sep {heap heap' : Heap β} (hP : Occupied P) (h : Separation.sep (· = heap) P heap') :
    heap' ≠ heap := by
  obtain ⟨heap, part, hdisj, rfl, rfl, hpart⟩ := h
  intro heq
  refine hP part hpart (Finmap.ext_lookup fun a => ?_)
  by_cases ha : a ∈ heap
  · rw [Finmap.lookup_empty, Finmap.lookup_eq_none]
    exact hdisj a ha
  · rw [← Finmap.lookup_union_right ha, heq, Finmap.lookup_empty, Finmap.lookup_eq_none.mpr ha]

end

end Support.Separation
