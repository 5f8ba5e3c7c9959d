import NetworkInterface.Address.Colons
import NetworkInterface.Support.Pieces

/-!
# Address — Tokenizer

The specification of `tokenizeString`, for every text and every separator but NUL.

`tokenizeString_spec`: all three loops end, no character behind the terminating NUL is read, no
`substr` starts beyond the end, and what is returned is the text cut at the separators, or the
maximal runs without separator.  The model returns nothing where one of the former fails
(`Failure.stalled`, `outOfBounds`, `outOfRange`).
-/

namespace NetworkInterface
open Support
open Support.Pieces (MaximalRuns maximalRuns_intercalate)

/-- `s` is the tokens, of which there is at least one, with the separator between each two. -/
structure IsCut (separator : Char) (s : Text) (tokens : List Text) : Prop where
  nonempty : tokens ≠ []
  free : ∀ t ∈ tokens, separator ∉ t
  join : List.intercalate [separator] tokens = s

theorem isCut_splitOn (separator : Char) (s : Text) : IsCut separator s (s.splitOn separator) where
  nonempty := List.splitOn_ne_nil _ _
  free _ h := not_mem_of_mem_splitOn h
  join := List.intercalate_splitOn separator

/-- A text is cut in one way. -/
theorem IsCut.unique {separator : Char} {s : Text} {tokens : List Text}
    (h : IsCut separator s tokens) : tokens = s.splitOn separator := by
  rw [← h.join, List.splitOn_intercalate separator h.free h.nonempty]

theorem maximalRuns_splitOn (separator : Char) (s : Text) :
    MaximalRuns (· ≠ separator) s (kept false (s.splitOn separator)) := by
  have runs := @maximalRuns_intercalate _ (fun c => decide (c ≠ separator)) separator (by simp)
    (s.splitOn separator) (List.splitOn_ne_nil _ _) fun t ht c hc =>
      decide_eq_true fun h => not_mem_of_mem_splitOn ht (h ▸ hc)
  rwa [List.intercalate_splitOn] at runs

/-- **`tokenizeString`**: with `emptyIsToken` the one list of separator-free texts that joins to
`s`, without it the maximal runs of `s` that are free of the separator. -/
theorem tokenizeString_spec {separator : Char} (hnul : separator ≠ '\x00') (s : Text) :
    (∃ tokens, tokenizeString s separator true = .ok tokens ∧
      (∀ tokens', IsCut separator s tokens' ↔ tokens' = tokens) ∧
      tokens.length = s.count separator + 1) ∧
    ∃ tokens, tokenizeString s separator false = .ok tokens ∧
      MaximalRuns (· ≠ separator) s tokens := by
  refine ⟨⟨s.splitOn separator, ?_, fun tokens' => ⟨fun h => h.unique, ?_⟩, ?_⟩,
    kept false (s.splitOn separator), ?_, maximalRuns_splitOn separator s⟩
  · rw [tokenizeString_eq s fun _ => hnul, kept_true]
  · rintro rfl
    exact isCut_splitOn separator s
  · exact length_splitOn separator s
  · exact tokenizeString_eq s fun _ => hnul

/-- At a separator before, between and behind the tokens, and two in a row. -/
theorem tokenizeString_spec_dots :
    (∃ tokens, tokenizeString ".1..2.".toList '.' true = .ok tokens ∧
      (∀ tokens', IsCut '.' ".1..2.".toList tokens' ↔ tokens' = tokens) ∧
      tokens.length = ".1..2.".toList.count '.' + 1) ∧
    ∃ tokens, tokenizeString ".1..2.".toList '.' false = .ok tokens ∧
      MaximalRuns (· ≠ '.') ".1..2.".toList tokens :=
  tokenizeString_spec (by decide) _

end NetworkInterface
