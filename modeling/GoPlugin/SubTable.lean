import GoPlugin.Tally

/-!
# Parts of tables

The entries of a table that satisfy a predicate form a table of their own, in which they
are numbered anew: `rank p l i` is the new number of entry `i`.  Tables grow at the end and
are updated in place, and both commute with taking the part.  An update or a new entry
outside the part leaves it as it is.
-/

namespace SubTable

universe u v

variable {α : Type u} {β : Type v} {p : α → Bool} {l : List α} {i : Nat} {a b : α}

/-- How many of the entries before the `i`-th satisfy `p`. -/
def rank (p : α → Bool) (l : List α) (i : Nat) : Nat := (l.take i).countP p

/-- The entries that satisfy `p`, each rewritten by `f`. -/
def pick (p : α → Bool) (f : α → β) (l : List α) : List β := (l.filter p).map f

/-! ### The numbers of the entries -/

theorem rank_length (p : α → Bool) (l : List α) : rank p l l.length = (l.filter p).length := by
  rw [rank, List.take_length, List.countP_eq_length_filter]

/-- New entries do not change the numbers of the old ones. -/
theorem rank_append (p : α → Bool) (l' : List α) (hi : i ≤ l.length) :
    rank p (l ++ l') i = rank p l i := by
  rw [rank, rank, List.take_append_of_le_length hi]

/-- An update that keeps an entry in the part, or outside, changes no number. -/
theorem rank_modify (f : α → α) (hf : ∀ a, p (f a) = p a) (j : Nat) :
    rank p (l.modify j f) i = rank p l i := by
  induction l generalizing i j with
  | nil => simp
  | cons c l ih =>
      cases i with
      | zero => rfl
      | succ i =>
          cases j with
          | zero => simp [rank, List.countP_cons, hf]
          | succ j =>
              have hrest := ih (i := i) j
              simp only [rank] at hrest
              simp [rank, List.countP_cons, hrest]

/-! ### The entries of the part -/

theorem getElem?_filter_rank (h : l[i]? = some a) (ha : p a = true) :
    (l.filter p)[rank p l i]? = some a := by
  induction l generalizing i with
  | nil => cases h
  | cons c l ih =>
      cases i with
      | zero =>
          cases h
          simp [rank, List.filter_cons_of_pos ha]
      | succ i =>
          have hrest := ih h
          by_cases hc : p c = true
          · simpa [rank, List.filter_cons_of_pos hc, List.countP_cons, hc] using hrest
          · simpa [rank, List.filter_cons_of_neg hc, List.countP_cons, hc] using hrest

theorem filter_set_of_pos (h : l[i]? = some a) (ha : p a = true) (hb : p b = true) :
    (l.set i b).filter p = (l.filter p).set (rank p l i) b := by
  induction l generalizing i with
  | nil => cases h
  | cons c l ih =>
      cases i with
      | zero =>
          cases h
          simp [rank, List.filter_cons_of_pos ha, List.filter_cons_of_pos hb]
      | succ i =>
          have hrest := ih h
          by_cases hc : p c = true
          · simpa [rank, List.filter_cons_of_pos hc, List.countP_cons, hc] using hrest
          · simpa [rank, List.filter_cons_of_neg hc, List.countP_cons, hc] using hrest

theorem filter_set_of_neg (h : l[i]? = some a) (ha : p a = false) (hb : p b = false) :
    (l.set i b).filter p = l.filter p := by
  induction l generalizing i with
  | nil => cases h
  | cons c l ih =>
      cases i with
      | zero =>
          cases h
          simp [ha, hb]
      | succ i =>
          have hrest := ih h
          by_cases hc : p c = true <;> simp [hc, hrest]

theorem getElem?_pick (f : α → β) (h : l[i]? = some a) (ha : p a = true) :
    (pick p f l)[rank p l i]? = some (f a) := by
  rw [pick, List.getElem?_map, getElem?_filter_rank h ha, Option.map_some]

/-! A table that is the part of another one stays so when the other one is updated or extended:
with the same change, if it concerns the part, and as it is otherwise. -/

section Follow

variable {f : α → β} {t : List β}

theorem set_eq_pick {c : β} (ht : t = pick p f l) (h : l[i]? = some a) (ha : p a = true)
    (hb : p b = true) (hc : f b = c) : t.set (rank p l i) c = pick p f (l.set i b) := by
  rw [ht, pick, pick, filter_set_of_pos h ha hb, List.map_set, hc]

theorem eq_pick_set (ht : t = pick p f l) (h : l[i]? = some a) (ha : p a = false)
    (hb : p b = false) : t = pick p f (l.set i b) := by
  rw [ht, pick, pick, filter_set_of_neg h ha hb]

theorem concat_eq_pick {c : β} (ht : t = pick p f l) (hb : p b = true) (hc : f b = c) :
    t ++ [c] = pick p f (l ++ [b]) := by
  simp [ht, pick, hb, hc]

theorem eq_pick_concat (ht : t = pick p f l) (hb : p b = false) :
    t = pick p f (l ++ [b]) := by
  simp [ht, pick, hb]

end Follow

/-- Only how `f` rewrites the entries of the table matters. -/
theorem pick_congr {f g : α → β} (h : ∀ a ∈ l, f a = g a) : pick p f l = pick p g l :=
  List.map_congr_left fun a ha => h a (List.mem_of_mem_filter ha)

end SubTable
