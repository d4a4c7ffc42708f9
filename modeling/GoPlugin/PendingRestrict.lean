import GoPlugin.PendingTable
import GoPlugin.SubTable

/-!
# A pending table for some of its keys

`t.restrict p` is the part of a pending table that belongs to the keys in `p`: the cells made
for them, numbered anew, and their entries.  An operation on a key or on a cell of the part is
the same operation on the part, and an operation on any other leaves the part alone.  So a
pending table is the product of its parts.

`Lone` is the shape of a table that one key uses and that has never forgotten its entry.
-/

namespace PendingTable

open SubTable

universe u v

variable {κ : Type u} {α : Type v}

theorem ext_of {t t' : PendingTable κ α} (hcells : t.cells = t'.cells)
    (hentry : ∀ k, t.entry k = t'.entry k) : t = t' := by
  cases t
  cases t'
  cases hcells
  cases funext hentry
  rfl

/-- The new number of cell `q` where only the cells made for keys in `p` are kept. -/
def renumber (t : PendingTable κ α) (p : κ → Bool) (q : Nat) : Nat :=
  rank (fun c => p c.key) t.cells q

theorem getElem?_renumber {t : PendingTable κ α} {p : κ → Bool} {q : Nat} {k : κ}
    (hq : t.keyOf q = some k) (hk : p k = true) :
    (t.cells.filter fun c => p c.key)[t.renumber p q]? = t.cells[q]? := by
  obtain ⟨c, hc, rfl⟩ := Option.map_eq_some_iff.mp hq
  rw [hc]
  exact getElem?_filter_rank hc hk

/-- The part of the table that belongs to the keys in `p`. -/
def restrict (t : PendingTable κ α) (p : κ → Bool) : PendingTable κ α where
  cells := t.cells.filter fun c => p c.key
  entry := fun k => if p k then (t.entry k).map (t.renumber p) else none
  entry_key := by
    intro k q hq
    split at hq
    · next hk =>
        obtain ⟨q₀, hq₀, rfl⟩ := Option.map_eq_some_iff.mp hq
        rw [getElem?_renumber (t.entry_key k q₀ hq₀) hk]
        exact t.entry_key k q₀ hq₀
    · cases hq

theorem cells_restrict (t : PendingTable κ α) (p : κ → Bool) :
    (t.restrict p).cells = t.cells.filter fun c => p c.key := rfl

@[simp] theorem restrict_empty (p : κ → Bool) :
    (empty : PendingTable κ α).restrict p = empty := by
  refine ext_of rfl fun k => ?_
  simp [restrict, empty]

/-! ### Reading the part -/

section Reading

variable {t : PendingTable κ α} {p : κ → Bool} {q : Nat} {k : κ}

theorem ch_restrict (hq : t.keyOf q = some k) (hk : p k = true) :
    (t.restrict p).ch (t.renumber p q) = t.ch q := by
  rw [ch, ch, restrict, getElem?_renumber hq hk]

theorem closed_restrict (hq : t.keyOf q = some k) (hk : p k = true) :
    (t.restrict p).closed (t.renumber p q) = t.closed q := by
  rw [closed, closed, restrict, getElem?_renumber hq hk]

theorem entry_restrict (hk : p k = true) :
    (t.restrict p).entry k = (t.entry k).map (t.renumber p) := by
  simp [restrict, hk]

/-- The part has the entries of its keys, with what is in them. -/
theorem content_restrict (hk : p k = true) :
    ((t.restrict p).entry k).map (t.restrict p).ch = (t.entry k).map t.ch := by
  rw [entry_restrict hk]
  cases hentry : t.entry k with
  | none => rfl
  | some q =>
      rw [Option.map_some, Option.map_some, Option.map_some,
        ch_restrict (keyOf_of_entry hentry) hk]

theorem slot_restrict (hk : p k = true) :
    (t.restrict p).slot k = t.renumber p (t.slot k) := by
  unfold slot
  rw [entry_restrict hk]
  cases t.entry k with
  | some q => rfl
  | none => exact (rank_length _ _).symm

end Reading

/-! ### Numbers stay -/

section Numbers

variable (t : PendingTable κ α) (p : κ → Bool) (q q' : Nat) (m : α) (k : κ)

@[simp] theorem renumber_update (f : Pending κ α → Pending κ α)
    (hf : ∀ c, (f c).key = c.key) : (t.update q f hf).renumber p = t.renumber p := by
  funext i
  exact rank_modify f (fun c => by rw [hf c]) q

@[simp] theorem renumber_put : (t.put q m).renumber p = t.renumber p := renumber_update ..

@[simp] theorem renumber_take : (t.take q).renumber p = t.renumber p := renumber_update ..

@[simp] theorem renumber_closeDone : (t.closeDone q).renumber p = t.renumber p :=
  renumber_update ..

@[simp] theorem renumber_erase [DecidableEq κ] : (t.erase k).renumber p = t.renumber p := rfl

variable {t q}

/-- A lookup may add a cell, behind all that exist. -/
theorem renumber_fetch_of_le [DecidableEq κ] (hq : q ≤ t.cells.length) :
    (t.fetch k).renumber p q = t.renumber p q := by
  unfold renumber
  rw [cells_fetch]
  split
  · exact rank_append _ _ hq
  · rfl

theorem renumber_fetch [DecidableEq κ] {k' : κ} (hq : t.keyOf q = some k') :
    (t.fetch k).renumber p q = t.renumber p q :=
  renumber_fetch_of_le p k (Nat.le_of_lt (lt_length_of_keyOf hq))

end Numbers

theorem slot_le_length (t : PendingTable κ α) (k : κ) : t.slot k ≤ t.cells.length := by
  unfold slot
  cases h : t.entry k with
  | some q => exact Nat.le_of_lt (lt_length_of_keyOf (keyOf_of_entry h))
  | none => exact Nat.le_refl _

/-! ### Operations on the part -/

section Own

variable {t : PendingTable κ α} {p : κ → Bool} {q : Nat} {k : κ}

theorem restrict_fetch_of_pos [DecidableEq κ] (hk : p k = true) :
    (t.fetch k).restrict p = (t.restrict p).fetch k := by
  refine ext_of ?_ fun k' => ?_
  · have hnone : (t.restrict p).entry k = none ↔ t.entry k = none := by
      rw [entry_restrict hk, Option.map_eq_none_iff]
    rw [cells_restrict, cells_fetch, cells_fetch, cells_restrict]
    by_cases h : t.entry k = none
    · simp [h, hnone.mpr h, hk]
    · simp [h, mt hnone.mp h]
  · have hslot := renumber_fetch_of_le p k (slot_le_length t k)
    rw [entry_fetch, slot_restrict hk]
    by_cases hk' : k' = k
    · simp [restrict, entry_fetch, hk', hk, hslot]
    · simp only [restrict, entry_fetch, hk', if_false]
      cases hentry : t.entry k' with
      | some q => simp [renumber_fetch p k (keyOf_of_entry hentry)]
      | none => rfl

theorem restrict_erase_of_pos [DecidableEq κ] (hk : p k = true) :
    (t.erase k).restrict p = (t.restrict p).erase k := by
  refine ext_of rfl fun k' => ?_
  rw [entry_erase]
  by_cases hk' : k' = k
  · simp [restrict, entry_erase, hk', hk]
  · simp [restrict, entry_erase, hk']

theorem restrict_update_of_pos (f : Pending κ α → Pending κ α) (hf : ∀ c, (f c).key = c.key)
    (hq : t.keyOf q = some k) (hk : p k = true) :
    (t.update q f hf).restrict p = (t.restrict p).update (t.renumber p q) f hf := by
  obtain ⟨c, hc, rfl⟩ := Option.map_eq_some_iff.mp hq
  refine ext_of ?_ fun k' => ?_
  · have hset := filter_set_of_pos (p := fun c => p c.key) (b := f c) hc hk (by rw [hf, hk])
    have hnew : (t.cells.filter fun c => p c.key)[t.renumber p q]? = some c := by
      rw [getElem?_renumber hq hk, hc]
    simp only [update, restrict, List.modify_eq_set_getElem?, hc, hnew, Option.map_eq_map,
      Option.map_some, Option.getD_some]
    exact hset
  · simp [restrict]

theorem restrict_put_of_pos (m : α) (hq : t.keyOf q = some k) (hk : p k = true) :
    (t.put q m).restrict p = (t.restrict p).put (t.renumber p q) m :=
  restrict_update_of_pos _ _ hq hk

theorem restrict_take_of_pos (hq : t.keyOf q = some k) (hk : p k = true) :
    (t.take q).restrict p = (t.restrict p).take (t.renumber p q) :=
  restrict_update_of_pos _ _ hq hk

theorem restrict_closeDone_of_pos (hq : t.keyOf q = some k) (hk : p k = true) :
    (t.closeDone q).restrict p = (t.restrict p).closeDone (t.renumber p q) :=
  restrict_update_of_pos _ _ hq hk

/-! ### Operations outside the part -/

theorem restrict_fetch_of_neg [DecidableEq κ] (hk : p k = false) :
    (t.fetch k).restrict p = t.restrict p := by
  refine ext_of ?_ fun k' => ?_
  · simp only [restrict, cells_fetch]
    split
    · simp [hk]
    · rfl
  · by_cases hk' : k' = k
    · simp [restrict, hk', hk]
    · simp only [restrict, entry_fetch, hk', if_false]
      cases hentry : t.entry k' with
      | some q => simp [renumber_fetch p k (keyOf_of_entry hentry)]
      | none => rfl

theorem restrict_erase_of_neg [DecidableEq κ] (hk : p k = false) :
    (t.erase k).restrict p = t.restrict p := by
  refine ext_of rfl fun k' => ?_
  by_cases hk' : k' = k
  · simp [restrict, hk', hk]
  · simp [restrict, entry_erase, hk']

theorem restrict_update_of_neg (f : Pending κ α → Pending κ α) (hf : ∀ c, (f c).key = c.key)
    (hq : t.keyOf q = some k) (hk : p k = false) :
    (t.update q f hf).restrict p = t.restrict p := by
  obtain ⟨c, hc, rfl⟩ := Option.map_eq_some_iff.mp hq
  refine ext_of ?_ fun k' => ?_
  · simp only [update, restrict, List.modify_eq_set_getElem?, hc, Option.map_eq_map,
      Option.map_some, Option.getD_some]
    exact filter_set_of_neg hc hk (by rw [hf, hk])
  · simp [restrict]

theorem restrict_put_of_neg (m : α) (hq : t.keyOf q = some k) (hk : p k = false) :
    (t.put q m).restrict p = t.restrict p :=
  restrict_update_of_neg _ _ hq hk

theorem restrict_take_of_neg (hq : t.keyOf q = some k) (hk : p k = false) :
    (t.take q).restrict p = t.restrict p :=
  restrict_update_of_neg _ _ hq hk

theorem restrict_closeDone_of_neg (hq : t.keyOf q = some k) (hk : p k = false) :
    (t.closeDone q).restrict p = t.restrict p :=
  restrict_update_of_neg _ _ hq hk

end Own

/-! ### A table that is the part of another one -/

section Part

variable {t tp : PendingTable κ α} {p : κ → Bool} {q : Nat} {k : κ}

theorem ch_part (h : tp = t.restrict p) (hq : t.keyOf q = some k) (hk : p k = true) :
    tp.ch (t.renumber p q) = t.ch q := by
  rw [h, ch_restrict hq hk]

theorem closed_part (h : tp = t.restrict p) (hq : t.keyOf q = some k) (hk : p k = true) :
    tp.closed (t.renumber p q) = t.closed q := by
  rw [h, closed_restrict hq hk]

theorem slot_part [DecidableEq κ] (h : tp = t.restrict p) (hk : p k = true) :
    tp.slot k = (t.fetch k).renumber p (t.slot k) := by
  rw [h, slot_restrict hk, renumber_fetch_of_le _ _ (slot_le_length _ _)]

theorem fetch_part [DecidableEq κ] (h : tp = t.restrict p) (hk : p k = true) :
    tp.fetch k = (t.fetch k).restrict p := by
  rw [h, restrict_fetch_of_pos hk]

theorem erase_part [DecidableEq κ] (h : tp = t.restrict p) (hk : p k = true) :
    tp.erase k = (t.erase k).restrict p := by
  rw [h, restrict_erase_of_pos hk]

theorem put_part (h : tp = t.restrict p) (m : α) (hq : t.keyOf q = some k) (hk : p k = true) :
    tp.put (t.renumber p q) m = (t.put q m).restrict p := by
  rw [h, restrict_put_of_pos m hq hk]

theorem take_part (h : tp = t.restrict p) (hq : t.keyOf q = some k) (hk : p k = true) :
    tp.take (t.renumber p q) = (t.take q).restrict p := by
  rw [h, restrict_take_of_pos hq hk]

theorem closeDone_part (h : tp = t.restrict p) (hq : t.keyOf q = some k) (hk : p k = true) :
    tp.closeDone (t.renumber p q) = (t.closeDone q).restrict p := by
  rw [h, restrict_closeDone_of_pos hq hk]

end Part

/-! ### Tables of one key -/

/-- Only `k` has used the table, and its entry was never forgotten nor its done channel closed:
    there is no cell yet, or there is one and it holds `content`. -/
def Lone (t : PendingTable κ α) (k : κ) : Option (Option α) → Prop
  | none => t.cells = [] ∧ t.entry k = none
  | some content => t.cells = [⟨k, content, false⟩] ∧ t.entry k = some 0

namespace Lone

variable {t : PendingTable κ α} {k : κ} {content : Option (Option α)}

theorem entry (h : t.Lone k content) : (t.entry k).map t.ch = content := by
  cases content with
  | none => simp [h.2]
  | some c => simp [h.2, PendingTable.ch, h.1]

theorem slot (h : t.Lone k content) : t.slot k = 0 := by
  cases content with
  | none => simp [PendingTable.slot, h.2, h.1]
  | some c => simp [PendingTable.slot, h.2]

theorem closed (h : t.Lone k content) (p : Nat) : t.closed p = false := by
  cases content with
  | none => simp [PendingTable.closed, h.1]
  | some c => cases p <;> simp [PendingTable.closed, h.1]

theorem ch_zero (h : t.Lone k content) : t.ch 0 = content.join := by
  cases content with
  | none => simp [PendingTable.ch, h.1]
  | some c => simp [PendingTable.ch, h.1]

theorem fetch [DecidableEq κ] (h : t.Lone k content) :
    (t.fetch k).Lone k (some content.join) := by
  refine ⟨?_, by rw [entry_fetch_self, h.slot]⟩
  cases content with
  | none => simp [cells_fetch, h.1, h.2]
  | some c => simp [cells_fetch, h.1, h.2]

theorem put {c : Option α} (h : t.Lone k (some c)) (m : α) :
    (t.put 0 m).Lone k (some (some m)) := by
  refine ⟨?_, h.2⟩
  simp [PendingTable.put, update, h.1]

end Lone

end PendingTable
