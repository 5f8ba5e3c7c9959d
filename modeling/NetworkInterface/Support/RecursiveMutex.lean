import Mathlib.Logic.Function.Basic

/-!
# Support — Recursive mutex

A mutex that the thread holding it may lock again, as `std::recursive_mutex`.  It is free or has an
owner; what a proof needs of it is how many times each thread has it (`acquisitions`).
-/

namespace Support

/-- A recursive mutex: free, or locked `more + 1` times by its owner. -/
inductive RecursiveMutex (T : Type*) where
  | free
  | held (owner : T) (more : Nat)

namespace RecursiveMutex

variable {T : Type*} [DecidableEq T] {m m' : RecursiveMutex T} {t t' : T}

/-- How many times each thread has locked the mutex without unlocking it. -/
def acquisitions : RecursiveMutex T → T → Nat
  | .free            => fun _ => 0
  | .held owner more => Function.update (fun _ => 0) owner (more + 1)

/-- `lock`, if it does not have to wait. -/
def lock (t : T) : RecursiveMutex T → Option (RecursiveMutex T)
  | .free            => some (.held t 0)
  | .held owner more => if owner = t then some (.held owner (more + 1)) else none

/-- `unlock`, by a thread that holds the mutex. -/
def unlock (t : T) : RecursiveMutex T → Option (RecursiveMutex T)
  | .free                  => none
  | .held owner 0          => if owner = t then some .free else none
  | .held owner (more + 1) => if owner = t then some (.held owner more) else none

theorem acquisitions_owner (owner : T) (more : Nat) :
    (held owner more).acquisitions owner = more + 1 := by
  rw [acquisitions, Function.update_self]

theorem acquisitions_of_ne {owner t : T} (h : t ≠ owner) (more : Nat) :
    (held owner more).acquisitions t = 0 := by
  rw [acquisitions, Function.update_of_ne h]

/-- Only the owner has the mutex. -/
theorem eq_held_of_acquisitions (h : 0 < m.acquisitions t) : ∃ more, m = .held t more := by
  cases m with
  | free => cases h
  | held owner more =>
      by_cases ht : t = owner
      · exact ⟨more, by rw [ht]⟩
      · rw [acquisitions_of_ne ht] at h
        cases h

/-- **Mutual exclusion**. -/
theorem eq_of_acquisitions (h : 0 < m.acquisitions t) (h' : 0 < m.acquisitions t') : t' = t := by
  obtain ⟨more, rfl⟩ := eq_held_of_acquisitions h
  by_contra hne
  rw [acquisitions_of_ne hne] at h'
  cases h'

/-- A mutex that nobody has is free. -/
theorem eq_free_of_acquisitions (h : ∀ t, m.acquisitions t = 0) : m = .free := by
  cases m with
  | free => rfl
  | held owner more => cases (acquisitions_owner owner more).symm.trans (h owner)

/-- Whoever locks the mutex has it once more, and nobody else has it. -/
theorem acquisitions_lock (h : m.lock t = some m') :
    m'.acquisitions = Function.update m.acquisitions t (m.acquisitions t + 1) ∧
      ∀ t' ≠ t, m.acquisitions t' = 0 := by
  cases m with
  | free =>
      obtain rfl := Option.some.inj h
      exact ⟨rfl, fun _ _ => rfl⟩
  | held owner more =>
      obtain ⟨rfl, heq⟩ := Option.ite_none_right_eq_some.mp h
      obtain rfl := Option.some.inj heq
      refine ⟨?_, fun t' ht => acquisitions_of_ne ht more⟩
      rw [acquisitions_owner, acquisitions, acquisitions, Function.update_idem]

/-- Whoever locks the mutex for the first time found it free. -/
theorem eq_free_of_lock (h : m.lock t = some m') (ht : m.acquisitions t = 0) : m = .free := by
  cases m with
  | free => rfl
  | held owner more =>
      obtain ⟨rfl, -⟩ := Option.ite_none_right_eq_some.mp h
      rw [acquisitions_owner] at ht
      cases ht

/-- Whoever unlocks the mutex has it once less. -/
theorem acquisitions_unlock (h : m.unlock t = some m') :
    m'.acquisitions = Function.update m.acquisitions t (m.acquisitions t - 1) := by
  cases m with
  | free => cases h
  | held owner more =>
      cases more with
      | zero =>
          obtain ⟨rfl, heq⟩ := Option.ite_none_right_eq_some.mp h
          obtain rfl := Option.some.inj heq
          rw [acquisitions_owner, acquisitions, acquisitions, Function.update_idem]
          exact (Function.update_eq_self owner _).symm
      | succ more =>
          obtain ⟨rfl, heq⟩ := Option.ite_none_right_eq_some.mp h
          obtain rfl := Option.some.inj heq
          rw [acquisitions_owner, acquisitions, acquisitions, Function.update_idem]
          rfl

/-- A thread that holds the mutex can lock it again, and unlock it. -/
theorem isSome_lock_unlock (h : 0 < m.acquisitions t) :
    (m.lock t).isSome = true ∧ (m.unlock t).isSome = true := by
  obtain ⟨more, rfl⟩ := eq_held_of_acquisitions h
  cases more with
  | zero =>
      rw [lock, unlock, if_pos rfl, if_pos rfl]
      exact ⟨rfl, rfl⟩
  | succ more =>
      rw [lock, unlock, if_pos rfl, if_pos rfl]
      exact ⟨rfl, rfl⟩

end RecursiveMutex

end Support
