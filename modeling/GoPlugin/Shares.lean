import Mathlib.Logic.Function.Basic
import Mathlib.Tactic.Common

/-!
# Shares of a divided stream

Several readers take a stream apart, a chunk at a time.  A list of chunks, each with the reader it
went to, says how the stream was divided; the share of a reader is what its chunks make up.
-/

namespace Shares

universe u v w

variable {ι : Type u} {α : Type v} {κ : Type w} [DecidableEq κ]

/-- The next chunk of the stream `c` goes to the reader `i`. -/
def give (chunks : κ → List (ι × List α)) (c : κ) (i : ι) (chunk : List α) :
    κ → List (ι × List α) :=
  Function.update chunks c (chunks c ++ [(i, chunk)])

section Give

variable (chunks : κ → List (ι × List α)) (c c' : κ) (i : ι) (chunk : List α)

/-- The stream that was divided goes on with the chunk. -/
theorem flatten_give : ((give chunks c i chunk c').map Prod.snd).flatten =
    ((chunks c').map Prod.snd).flatten ++ if c' = c then chunk else [] := by
  unfold give
  by_cases hc : c' = c
  · subst hc
    simp
  · simp [hc]

theorem mem_give {x : ι × List α} (h : x ∈ give chunks c i chunk c') :
    x ∈ chunks c' ∨ x = (i, chunk) := by
  unfold give at h
  by_cases hc : c' = c
  · subst hc
    rw [Function.update_self] at h
    exact (List.mem_append.mp h).imp id List.mem_singleton.mp
  · rw [Function.update_of_ne hc] at h
    exact Or.inl h

end Give

variable [DecidableEq ι]

/-- What the chunks of one reader make up. -/
def share (chunks : List (ι × List α)) (i : ι) : List α :=
  ((chunks.filter (·.1 == i)).map Prod.snd).flatten

theorem share_eq_nil {chunks : List (ι × List α)} {i : ι} (h : ∀ x ∈ chunks, x.1 ≠ i) :
    share chunks i = [] := by
  have hnone : chunks.filter (·.1 == i) = [] := by
    rw [List.filter_eq_nil_iff]
    intro x hx
    simpa using h x hx
  rw [share, hnone]
  rfl

/-- Only the share of one reader in one stream grows. -/
theorem share_give (chunks : κ → List (ι × List α)) (c c' : κ) (i j : ι) (chunk : List α) :
    share (give chunks c i chunk c') j =
      share (chunks c') j ++ if c' = c ∧ j = i then chunk else [] := by
  unfold give
  by_cases hc : c' = c
  · subst hc
    by_cases hi : j = i
    · subst hi
      simp [share]
    · simp [share, hi, Ne.symm hi]
  · simp [hc]

end Shares
