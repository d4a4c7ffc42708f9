import GoPlugin.Tally

/-!
# Keyed one-slot mailboxes

A pending table maps keys to entries.  An entry is a channel with one buffer slot
and a done channel that can be closed once.  Entries are heap objects: a thread
that has looked one up keeps using it after the table has forgotten it, and a later
lookup of the same key then makes a second entry.  So the table is a heap of cells,
which only grows, and a partial map from keys to cell numbers.

`key` records for which key a cell was made.  No operation reads it.  The structure
carries the one fact that ties the two parts together: an entry found under a key
was made for that key.
-/

universe u v

/-- One heap cell: a buffered channel of capacity one and a done channel. -/
structure Pending (κ : Type u) (α : Type v) where
  key : κ
  ch : Option α
  doneCh : Bool
deriving DecidableEq, Repr

structure PendingTable (κ : Type u) (α : Type v) where
  cells : List (Pending κ α)
  entry : κ → Option Nat
  entry_key : ∀ k p, entry k = some p → (cells[p]?).map Pending.key = some k

namespace PendingTable

open Tally

variable {κ : Type u} {α : Type v}

/-- The content of the slot of cell `p`. -/
def ch (t : PendingTable κ α) (p : Nat) : Option α := (t.cells[p]?).bind Pending.ch

/-- Whether the done channel of cell `p` is closed. -/
def closed (t : PendingTable κ α) (p : Nat) : Bool :=
  ((t.cells[p]?).map Pending.doneCh).getD false

/-- The key cell `p` was made for. -/
def keyOf (t : PendingTable κ α) (p : Nat) : Option κ := (t.cells[p]?).map Pending.key

/-! ### Operations -/

def empty : PendingTable κ α where
  cells := []
  entry := fun _ => none
  entry_key := by simp

/-- The cell a lookup of `k` returns: the entry, or the next free cell. -/
def slot (t : PendingTable κ α) (k : κ) : Nat := (t.entry k).getD t.cells.length

section Keys

variable [DecidableEq κ]

/-- The table after a lookup of `k`, which makes the entry where there is none. -/
def fetch (t : PendingTable κ α) (k : κ) : PendingTable κ α :=
  match h : t.entry k with
  | some _ => t
  | none =>
      { cells := t.cells ++ [⟨k, none, false⟩]
        entry := fun k' => if k' = k then some t.cells.length else t.entry k'
        entry_key := by
          intro k' p hp
          by_cases hk : k' = k
          · simp only [hk, if_true, Option.some.injEq] at hp
            simp [← hp, hk]
          · simp only [if_neg hk] at hp
            have hkey := t.entry_key k' p hp
            have hlt : p < t.cells.length := by
              by_contra hge
              simp [List.getElem?_eq_none (Nat.le_of_not_lt hge)] at hkey
            rwa [List.getElem?_append_left hlt] }

/-- Forget the entry of `k`, whichever cell it is. -/
def erase (t : PendingTable κ α) (k : κ) : PendingTable κ α where
  cells := t.cells
  entry := fun k' => if k' = k then none else t.entry k'
  entry_key := by
    intro k' p hp
    split at hp
    · cases hp
    · exact t.entry_key k' p hp

end Keys

/-- Update a cell without touching its key. -/
def update (t : PendingTable κ α) (p : Nat) (f : Pending κ α → Pending κ α)
    (hf : ∀ c, (f c).key = c.key) : PendingTable κ α where
  cells := t.cells.modify p f
  entry := t.entry
  entry_key := by
    intro k q hq
    have hkey := t.entry_key k q hq
    simp only [List.getElem?_modify, Option.map_eq_map, Option.map_map] at hkey ⊢
    rw [← hkey]
    congr 1
    funext c
    simp only [Function.comp_apply]
    split
    · exact hf c
    · rfl

/-- Buffer `m` in the slot of cell `p`. -/
def put (t : PendingTable κ α) (p : Nat) (m : α) : PendingTable κ α :=
  t.update p (fun c => { c with ch := some m }) fun _ => rfl

/-- Empty the slot of cell `p`. -/
def take (t : PendingTable κ α) (p : Nat) : PendingTable κ α :=
  t.update p (fun c => { c with ch := none }) fun _ => rfl

/-- Close the done channel of cell `p`. -/
def closeDone (t : PendingTable κ α) (p : Nat) : PendingTable κ α :=
  t.update p (fun c => { c with doneCh := true }) fun _ => rfl

/-- The total weight of the buffered messages, over all cells ever made. -/
def load (f : α → Nat) (t : PendingTable κ α) : Nat :=
  tally (fun c => (c.ch.map f).getD 0) t.cells

/-! ### What a lookup changes -/

theorem lt_length_of_keyOf {t : PendingTable κ α} {p : Nat} {k : κ}
    (h : t.keyOf p = some k) : p < t.cells.length := by
  by_contra hge
  simp [keyOf, List.getElem?_eq_none (Nat.le_of_not_lt hge)] at h

theorem lt_length_of_ch {t : PendingTable κ α} {p : Nat} {m : α}
    (h : t.ch p = some m) : p < t.cells.length := by
  by_contra hge
  simp [ch, List.getElem?_eq_none (Nat.le_of_not_lt hge)] at h

theorem keyOf_of_entry {t : PendingTable κ α} {k : κ} {p : Nat}
    (h : t.entry k = some p) : t.keyOf p = some k := t.entry_key k p h

section Keys

variable [DecidableEq κ]

theorem cells_fetch (t : PendingTable κ α) (k : κ) :
    (t.fetch k).cells =
      if t.entry k = none then t.cells ++ [⟨k, none, false⟩] else t.cells := by
  unfold fetch
  split <;> rename_i h <;> simp [h]

theorem entry_fetch (t : PendingTable κ α) (k k' : κ) :
    (t.fetch k).entry k' = if k' = k then some (t.slot k) else t.entry k' := by
  unfold fetch slot
  split <;> rename_i h
  · by_cases hk : k' = k
    · simp [hk, h]
    · simp [hk]
  · simp [h]

@[simp] theorem entry_fetch_self (t : PendingTable κ α) (k : κ) :
    (t.fetch k).entry k = some (t.slot k) := by
  simp [entry_fetch]

@[simp] theorem keyOf_slot (t : PendingTable κ α) (k : κ) :
    (t.fetch k).keyOf (t.slot k) = some k :=
  keyOf_of_entry (entry_fetch_self t k)

/-- A new cell is empty, so a lookup changes no slot. -/
@[simp] theorem ch_fetch (t : PendingTable κ α) (k : κ) (p : Nat) :
    (t.fetch k).ch p = t.ch p := by
  simp only [ch, cells_fetch]
  split
  · rcases Nat.lt_trichotomy p t.cells.length with hlt | heq | hgt
    · rw [List.getElem?_append_left hlt]
    · simp [heq]
    · simp [List.getElem?_eq_none (Nat.le_of_lt hgt), List.getElem?_append_right (Nat.le_of_lt hgt),
        Nat.sub_ne_zero_of_lt hgt]
  · rfl

@[simp] theorem closed_fetch (t : PendingTable κ α) (k : κ) (p : Nat) :
    (t.fetch k).closed p = t.closed p := by
  simp only [closed, cells_fetch]
  split
  · grind
  · rfl

/-- An entry found after a lookup was there before, or it is the new one, which is empty. -/
theorem entry_fetch_cases {t : PendingTable κ α} {k k' : κ} {p : Nat}
    (h : (t.fetch k).entry k' = some p) :
    t.entry k' = some p ∨ (p = t.slot k ∧ t.ch p = none) := by
  rw [entry_fetch] at h
  split at h
  · next hk =>
      subst hk
      cases h
      cases hentry : t.entry k' with
      | some q => exact Or.inl (by simp [slot, hentry])
      | none =>
          refine Or.inr ⟨rfl, ?_⟩
          -- the new cell lies behind all others
          have hslot : t.slot k' = t.cells.length := by simp [slot, hentry]
          rw [hslot, ch, List.getElem?_eq_none (Nat.le_refl _)]
          rfl
  · exact Or.inl h

theorem keyOf_fetch {t : PendingTable κ α} {p : Nat} {k' : κ} (k : κ)
    (h : t.keyOf p = some k') : (t.fetch k).keyOf p = some k' := by
  have hlt := lt_length_of_keyOf h
  simp only [keyOf, cells_fetch] at h ⊢
  split
  · rwa [List.getElem?_append_left hlt]
  · exact h

@[simp] theorem load_fetch (f : α → Nat) (t : PendingTable κ α) (k : κ) :
    (t.fetch k).load f = t.load f := by
  simp only [load, cells_fetch]
  split
  · simp
  · rfl

/-! ### What the other operations change -/

theorem entry_erase (t : PendingTable κ α) (k k' : κ) :
    (t.erase k).entry k' = if k' = k then none else t.entry k' := rfl

@[simp] theorem ch_erase (t : PendingTable κ α) (k : κ) (p : Nat) :
    (t.erase k).ch p = t.ch p := rfl

@[simp] theorem closed_erase (t : PendingTable κ α) (k : κ) (p : Nat) :
    (t.erase k).closed p = t.closed p := rfl

@[simp] theorem keyOf_erase (t : PendingTable κ α) (k : κ) (p : Nat) :
    (t.erase k).keyOf p = t.keyOf p := rfl

@[simp] theorem load_erase (f : α → Nat) (t : PendingTable κ α) (k : κ) :
    (t.erase k).load f = t.load f := rfl

end Keys

section Cells

variable (t : PendingTable κ α) (p q : Nat) (m : α) (k : κ)

@[simp] theorem entry_update (f : Pending κ α → Pending κ α)
    (hf : ∀ c, (f c).key = c.key) : (t.update p f hf).entry = t.entry := rfl

@[simp] theorem keyOf_update (f : Pending κ α → Pending κ α)
    (hf : ∀ c, (f c).key = c.key) : (t.update p f hf).keyOf q = t.keyOf q := by
  simp only [keyOf, update, List.getElem?_modify, Option.map_eq_map, Option.map_map]
  congr 1
  funext c
  simp only [Function.comp_apply]
  split
  · exact hf c
  · rfl

@[simp] theorem keyOf_put : (t.put p m).keyOf q = t.keyOf q := keyOf_update ..

@[simp] theorem keyOf_take : (t.take p).keyOf q = t.keyOf q := keyOf_update ..

@[simp] theorem keyOf_closeDone : (t.closeDone p).keyOf q = t.keyOf q := keyOf_update ..

theorem ch_put :
    (t.put p m).ch q = if q = p ∧ p < t.cells.length then some m else t.ch q := by
  simp only [ch, put, update, List.getElem?_modify]
  by_cases hq : q = p
  · subst hq
    by_cases hlt : q < t.cells.length
    · simp [hlt]
    · simp [hlt]
  · cases hc : t.cells[q]? <;> simp [hq, Ne.symm hq]

theorem ch_take : (t.take p).ch q = if q = p then none else t.ch q := by
  simp only [ch, take, update, List.getElem?_modify]
  by_cases hq : q = p
  · subst hq
    cases t.cells[q]? <;> simp
  · cases hc : t.cells[q]? <;> simp [hq, Ne.symm hq]

@[simp] theorem ch_closeDone : (t.closeDone p).ch q = t.ch q := by
  simp only [ch, closeDone, update, List.getElem?_modify]
  cases hc : t.cells[q]? with
  | none => rfl
  | some c =>
      simp only [Option.map_eq_map, Option.map_some, Option.bind_some]
      split <;> rfl

theorem closed_closeDone :
    (t.closeDone p).closed q = if q = p ∧ p < t.cells.length then true else t.closed q := by
  simp only [closed, closeDone, update, List.getElem?_modify]
  by_cases hq : q = p
  · subst hq
    by_cases hlt : q < t.cells.length
    · simp [hlt]
    · simp [hlt]
  · cases hc : t.cells[q]? <;> simp [hq, Ne.symm hq]

@[simp] theorem closed_put : (t.put p m).closed q = t.closed q := by
  simp only [closed, put, update, List.getElem?_modify]
  cases hc : t.cells[q]? with
  | none => rfl
  | some c =>
      simp only [Option.map_eq_map, Option.map_some, Option.getD_some]
      split <;> rfl

@[simp] theorem closed_take : (t.take p).closed q = t.closed q := by
  simp only [closed, take, update, List.getElem?_modify]
  cases hc : t.cells[q]? with
  | none => rfl
  | some c =>
      simp only [Option.map_eq_map, Option.map_some, Option.getD_some]
      split <;> rfl

end Cells

/-- Buffering a message in an empty slot adds its weight. -/
theorem load_put {t : PendingTable κ α} {p : Nat} (f : α → Nat) (m : α)
    (hp : p < t.cells.length) (hch : t.ch p = none) :
    (t.put p m).load f = t.load f + f m := by
  have hcell : t.cells[p]? = some t.cells[p] := List.getElem?_eq_getElem hp
  have hempty : (t.cells[p]).ch = none := by simpa [ch, hcell] using hch
  have h := tally_modify (fun c : Pending κ α => (c.ch.map f).getD 0)
    (fun c => { c with ch := some m }) hcell
  simp only [hempty, Option.map_none, Option.getD_none, Option.map_some,
    Option.getD_some] at h
  simpa [load, put, update] using h

theorem load_put_le {t : PendingTable κ α} {p : Nat} (f : α → Nat) (m : α)
    (hch : t.ch p = none) : (t.put p m).load f ≤ t.load f + f m := by
  by_cases hp : p < t.cells.length
  · exact Nat.le_of_eq (load_put f m hp hch)
  · simp only [load, put, update, List.modify_eq_self (Nat.le_of_not_lt hp)]
    exact Nat.le_add_right _ _

/-- Receiving a message takes its weight out. -/
theorem load_take {t : PendingTable κ α} {p : Nat} {m : α} (f : α → Nat)
    (hch : t.ch p = some m) : (t.take p).load f + f m = t.load f := by
  have hp := lt_length_of_ch hch
  have hcell : t.cells[p]? = some t.cells[p] := List.getElem?_eq_getElem hp
  have hfull : (t.cells[p]).ch = some m := by simpa [ch, hcell] using hch
  have h := tally_modify (fun c : Pending κ α => (c.ch.map f).getD 0)
    (fun c => { c with ch := none }) hcell
  simp only [hfull, Option.map_none, Option.getD_none, Option.map_some,
    Option.getD_some] at h
  simpa [load, take, update] using h

@[simp] theorem load_closeDone (f : α → Nat) (t : PendingTable κ α) (p : Nat) :
    (t.closeDone p).load f = t.load f := by
  by_cases hp : p < t.cells.length
  · have hcell : t.cells[p]? = some t.cells[p] := List.getElem?_eq_getElem hp
    have h := tally_modify (fun c : Pending κ α => (c.ch.map f).getD 0)
      (fun c => { c with doneCh := true }) hcell
    exact Nat.add_right_cancel h
  · simp only [load, closeDone, update,
      List.modify_eq_self (Nat.le_of_not_lt hp)]

theorem le_load (f : α → Nat) {t : PendingTable κ α} {p : Nat} {m : α}
    (hch : t.ch p = some m) : f m ≤ t.load f := by
  have := load_take f hch
  omega

theorem load_mono {f g : α → Nat} (h : ∀ m, f m ≤ g m) (t : PendingTable κ α) :
    t.load f ≤ t.load g := by
  refine tally_le_tally fun c _ => ?_
  cases c.ch with
  | none => exact Nat.le_refl _
  | some m => exact h m

theorem load_eq_zero {f : α → Nat} {t : PendingTable κ α} :
    t.load f = 0 ↔ ∀ p m, t.ch p = some m → f m = 0 := by
  constructor
  · intro h p m hch
    have := le_load f hch
    omega
  · intro h
    refine tally_eq_zero.mpr fun c hc => ?_
    obtain ⟨p, hlt, rfl⟩ := List.mem_iff_getElem.mp hc
    cases hm : (t.cells[p]).ch with
    | none => rfl
    | some m =>
        have hch : t.ch p = some m := by simp [ch, List.getElem?_eq_getElem hlt, hm]
        simpa using h p m hch

/-! ### Newer cells -/

/-- An entry is the newest of the cells that were made for its key. -/
def Newest (t : PendingTable κ α) : Prop :=
  ∀ k p q, t.entry k = some q → t.keyOf p = some k → p ≤ q

theorem newest_empty : (empty : PendingTable κ α).Newest := by
  intro k p q hq
  cases hq

/-- A lookup returns a cell that is as new as any of the key. -/
theorem Newest.le_slot {t : PendingTable κ α} (h : t.Newest) {k : κ} {p : Nat}
    (hp : t.keyOf p = some k) : p ≤ t.slot k := by
  unfold slot
  cases hentry : t.entry k with
  | some q => exact h k p q hentry hp
  | none => exact Nat.le_of_lt (lt_length_of_keyOf hp)

/-- A cell that a lookup leaves was there, or it is the one that the lookup returns. -/
theorem keyOf_fetch_cases [DecidableEq κ] {t : PendingTable κ α} {p : Nat} {k k' : κ}
    (h : (t.fetch k).keyOf p = some k') : t.keyOf p = some k' ∨ p = t.slot k := by
  simp only [keyOf, cells_fetch] at h
  split at h
  · next hnone =>
      rw [Option.map_eq_some_iff] at h
      obtain ⟨c, hc, rfl⟩ := h
      rcases getElem?_concat_cases hc with hold | ⟨rfl, -⟩
      · exact Or.inl (by simp [keyOf, hold])
      · exact Or.inr (by simp [slot, hnone])
  · exact Or.inl h

theorem Newest.fetch [DecidableEq κ] {t : PendingTable κ α} (h : t.Newest) (k : κ) :
    (t.fetch k).Newest := by
  intro k' p q hq hp
  rw [entry_fetch] at hq
  split at hq
  · next hk =>
      cases hq
      subst hk
      rcases keyOf_fetch_cases hp with hold | rfl
      · exact h.le_slot hold
      · exact Nat.le_refl _
  · next hk =>
      rcases keyOf_fetch_cases hp with hold | rfl
      · exact h k' p q hq hold
      · rw [keyOf_slot] at hp
        exact absurd (Option.some.inj hp).symm hk

theorem Newest.erase [DecidableEq κ] {t : PendingTable κ α} (h : t.Newest) (k : κ) :
    (t.erase k).Newest := by
  intro k' p q hq hp
  rw [entry_erase] at hq
  split at hq
  · cases hq
  · exact h k' p q hq hp

theorem Newest.update {t : PendingTable κ α} (h : t.Newest) (p : Nat)
    (f : Pending κ α → Pending κ α) (hf : ∀ c, (f c).key = c.key) : (t.update p f hf).Newest := by
  intro k q q' hq hp
  rw [keyOf_update] at hp
  exact h k q q' hq hp

theorem Newest.put {t : PendingTable κ α} (h : t.Newest) (p : Nat) (m : α) : (t.put p m).Newest :=
  h.update p _ _

theorem Newest.take {t : PendingTable κ α} (h : t.Newest) (p : Nat) : (t.take p).Newest :=
  h.update p _ _

theorem Newest.closeDone {t : PendingTable κ α} (h : t.Newest) (p : Nat) :
    (t.closeDone p).Newest :=
  h.update p _ _

end PendingTable
