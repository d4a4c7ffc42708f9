import Mathlib.Data.List.Basic
import Mathlib.Tactic.Common

/-!
# Tallies over tables

The threads and the heap cells of a concurrent state are kept in lists that only
grow and whose entries are replaced in place.  `tally f l` adds up a weight over
such a table.  Conservation arguments ("this item is in exactly one place") become
linear arithmetic once each in-place update is known to trade the old weight of
the entry for the new one, which is `tally_set`.
-/

namespace Tally

universe u

variable {α : Type u}

/-- The total weight of a table. -/
def tally (f : α → Nat) : List α → Nat
  | [] => 0
  | a :: l => f a + tally f l

@[simp] theorem tally_nil (f : α → Nat) : tally f [] = 0 := rfl

@[simp] theorem tally_cons (f : α → Nat) (a : α) (l : List α) :
    tally f (a :: l) = f a + tally f l := rfl

@[simp] theorem tally_append (f : α → Nat) (l l' : List α) :
    tally f (l ++ l') = tally f l + tally f l' := by
  induction l with
  | nil => simp
  | cons a l ih =>
      rw [List.cons_append, tally_cons, tally_cons, ih]
      omega

/-- An entry of an updated table is the new entry or an old one. -/
theorem getElem?_set_cases {l : List α} {i j : Nat} {a b : α}
    (h : (l.set i b)[j]? = some a) : (i = j ∧ a = b) ∨ (i ≠ j ∧ l[j]? = some a) := by
  rw [List.getElem?_set] at h
  split at h
  · split at h
    · exact Or.inl ⟨‹_›, (Option.some.inj h).symm⟩
    · cases h
  · exact Or.inr ⟨‹_›, h⟩

/-- An entry of an extended table is an old entry or the new one. -/
theorem getElem?_concat_cases {l : List α} {j : Nat} {a b : α}
    (h : (l ++ [b])[j]? = some a) : l[j]? = some a ∨ (j = l.length ∧ a = b) := by
  rcases Nat.lt_trichotomy j l.length with hlt | heq | hgt
  · rw [List.getElem?_append_left hlt] at h
    exact Or.inl h
  · subst heq
    simp only [List.getElem?_concat_length, Option.some.injEq] at h
    exact Or.inr ⟨rfl, h.symm⟩
  · have hlen : (l ++ [b]).length ≤ j := by
      rw [List.length_append, List.length_singleton]
      omega
    rw [List.getElem?_eq_none hlen] at h
    cases h

/-- An old entry is still in an extended table. -/
theorem getElem?_concat_of_some {l : List α} {j : Nat} {a : α} (h : l[j]? = some a) (b : α) :
    (l ++ [b])[j]? = some a := by
  obtain ⟨hlt, -⟩ := List.getElem?_eq_some_iff.mp h
  rwa [List.getElem?_append_left hlt]

/-- An old entry is still in an updated table, or it is the one that was replaced. -/
theorem getElem?_set_of_some {l : List α} {j : Nat} {a : α} (h : l[j]? = some a) (i : Nat)
    (b : α) :
    (i = j ∧ (l.set i b)[j]? = some b) ∨ (i ≠ j ∧ (l.set i b)[j]? = some a) := by
  by_cases hij : i = j
  · obtain ⟨hlt, -⟩ := List.getElem?_eq_some_iff.mp h
    exact Or.inl ⟨hij, by rw [hij, List.getElem?_set_self hlt]⟩
  · exact Or.inr ⟨hij, by rw [List.getElem?_set_ne hij, h]⟩

/-- Replacing an entry trades its old weight for the new one. -/
theorem tally_set (f : α → Nat) {l : List α} {i : Nat} {a : α} (b : α)
    (h : l[i]? = some a) : tally f (l.set i b) + f a = tally f l + f b := by
  induction l generalizing i with
  | nil => simp at h
  | cons c l ih =>
      cases i with
      | zero =>
          simp only [List.getElem?_cons_zero, Option.some.injEq] at h
          subst h
          simp only [List.set_cons_zero, tally_cons]
          omega
      | succ i =>
          simp only [List.getElem?_cons_succ] at h
          have := ih h
          simp only [List.set_cons_succ, tally_cons]
          omega

theorem tally_modify (f : α → Nat) {l : List α} {i : Nat} {a : α} (g : α → α)
    (h : l[i]? = some a) : tally f (l.modify i g) + f a = tally f l + f (g a) := by
  have hset : l.modify i g = l.set i (g a) := by
    rw [List.modify_eq_set_getElem?, h]
    rfl
  rw [hset]
  exact tally_set f (g a) h

theorem tally_eq_zero {f : α → Nat} {l : List α} :
    tally f l = 0 ↔ ∀ a ∈ l, f a = 0 := by
  induction l with
  | nil => simp
  | cons a l ih => simp [ih]

theorem tally_eq_length {f : α → Nat} {l : List α} (h : ∀ a ∈ l, f a = 1) :
    tally f l = l.length := by
  induction l with
  | nil => rfl
  | cons a l ih =>
      rw [tally_cons, List.length_cons, h a List.mem_cons_self,
        ih fun b hb => h b (List.mem_cons_of_mem a hb)]
      omega

/-- An entry weighs at most as much as the table. -/
theorem le_tally (f : α → Nat) {l : List α} {i : Nat} {a : α} (h : l[i]? = some a) :
    f a ≤ tally f l := by
  induction l generalizing i with
  | nil => simp at h
  | cons c l ih =>
      simp only [tally_cons]
      cases i with
      | zero =>
          simp only [List.getElem?_cons_zero, Option.some.injEq] at h
          rw [h]
          omega
      | succ i =>
          have := ih (by simpa using h)
          omega

/-- Two different entries weigh together at most as much as the table. -/
theorem add_le_tally (f : α → Nat) {l : List α} {i j : Nat} {a b : α} (hij : i ≠ j)
    (hi : l[i]? = some a) (hj : l[j]? = some b) : f a + f b ≤ tally f l := by
  induction l generalizing i j with
  | nil => simp at hi
  | cons c l ih =>
      rcases i with _ | i <;> rcases j with _ | j
      · exact absurd rfl hij
      · simp only [List.getElem?_cons_zero, Option.some.injEq] at hi
        simp only [List.getElem?_cons_succ] at hj
        have := le_tally f hj
        simp only [tally_cons, ← hi]
        omega
      · simp only [List.getElem?_cons_zero, Option.some.injEq] at hj
        simp only [List.getElem?_cons_succ] at hi
        have := le_tally f hi
        simp only [tally_cons, ← hj]
        omega
      · simp only [List.getElem?_cons_succ] at hi hj
        have := ih (fun h => hij (congrArg Nat.succ h)) hi hj
        simp only [tally_cons]
        omega

theorem tally_add (f g : α → Nat) (l : List α) :
    tally (fun a => f a + g a) l = tally f l + tally g l := by
  induction l with
  | nil => rfl
  | cons a l ih =>
      simp only [tally_cons, ih]
      omega

theorem tally_le_tally {f g : α → Nat} {l : List α} (h : ∀ a ∈ l, f a ≤ g a) :
    tally f l ≤ tally g l := by
  induction l with
  | nil => exact Nat.le_refl 0
  | cons a l ih =>
      have hl := ih fun b hb => h b (List.mem_cons_of_mem a hb)
      have ha := h a List.mem_cons_self
      simp only [tally_cons]
      omega

/-- A table in which some entries weigh one and the others nothing. -/
theorem tally_ite (p : α → Prop) [DecidablePred p] (l : List α) :
    tally (fun a => if p a then 1 else 0) l = (l.filter p).length := by
  induction l with
  | nil => rfl
  | cons a l ih =>
      rw [tally_cons, ih, List.filter_cons]
      by_cases h : p a
      · simp only [h, if_true, decide_true, List.length_cons]
        omega
      · simp only [h, if_false, decide_false, Nat.zero_add, Bool.false_eq_true]

/-! ### The weight of one entry -/

/-- The weight of an entry; there is none where there is no entry. -/
def weightAt (f : α → Nat) (l : List α) (i : Nat) : Nat :=
  match l[i]? with
  | some a => f a
  | none => 0

theorem weightAt_of_some (f : α → Nat) {l : List α} {i : Nat} {a : α} (h : l[i]? = some a) :
    weightAt f l i = f a := by
  rw [weightAt, h]

theorem weightAt_set (f : α → Nat) {l : List α} {i : Nat} {a : α} (b : α) (h : l[i]? = some a)
    (j : Nat) : weightAt f (l.set i b) j = if i = j then f b else weightAt f l j := by
  obtain ⟨hlt, -⟩ := List.getElem?_eq_some_iff.mp h
  split
  · next heq =>
      subst heq
      exact weightAt_of_some f (List.getElem?_set_self hlt)
  · next hne => rw [weightAt, List.getElem?_set_ne hne, weightAt]

/-- An entry of the same weight can take the place of another one. -/
theorem weightAt_set_of_eq {f : α → Nat} {l : List α} {i : Nat} {a : α} (b : α)
    (h : l[i]? = some a) (heq : f b = f a) (j : Nat) :
    weightAt f (l.set i b) j = weightAt f l j := by
  rw [weightAt_set f b h]
  split
  · next hij => rw [heq, ← hij, weightAt_of_some f h]
  · rfl

theorem weightAt_concat (f : α → Nat) (l : List α) (b : α) (j : Nat) :
    weightAt f (l ++ [b]) j = weightAt f l j + if l.length = j then f b else 0 := by
  unfold weightAt
  rcases Nat.lt_trichotomy j l.length with hlt | rfl | hgt
  · rw [List.getElem?_append_left hlt, if_neg (by omega)]
    rfl
  · simp
  · rw [List.getElem?_eq_none (by rw [List.length_append, List.length_singleton]; omega),
      List.getElem?_eq_none (by omega), if_neg (by omega)]

end Tally
