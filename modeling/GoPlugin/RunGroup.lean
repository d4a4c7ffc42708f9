import Mathlib.Data.List.Perm.Subperm
import Mathlib.Data.Nat.Find
import Mathlib.Tactic.Common

/-!
# Run groups

A run group executes actors side by side.  When the first of them returns, the group interrupts
them all, and it returns when all of them have.  An interrupt may block.

A group is known here by what it promises.  It is any function that says, of what has happened so
far, whether the group may now call an interrupt or return; `Conforms` is the promise, and `inOrder`
is a group that keeps it.
-/

namespace RunGroup

inductive Event where
  | ended (i : Nat)          -- the `i`-th actor has returned
  | interrupts (i : Nat)     -- the group calls its interrupt
  | interrupted (i : Nat)    -- the interrupt has returned
  | returns                  -- the group returns
deriving DecidableEq, Repr

/-- All that can happen to a group of `count` actors. -/
def events (count : Nat) : List Event :=
  .returns :: (List.range count).flatMap fun i => [.ended i, .interrupts i, .interrupted i]

theorem length_events (count : Nat) : (events count).length = 3 * count + 1 := by
  simp [events, Nat.mul_comm]

def Event.Known (count : Nat) : Event → Prop
  | .ended i | .interrupts i | .interrupted i => i < count
  | .returns => True

theorem mem_events {count : Nat} {e : Event} : e ∈ events count ↔ e.Known count := by
  cases e <;> simp [events, Event.Known]

/-- What a group of `count` actors promises. -/
structure Conforms (count : Nat) (may : List Event → Event → Bool) : Prop where
  /-- It calls an interrupt once, and not before an actor has returned. -/
  interrupts : ∀ {past i}, may past (.interrupts i) = true →
    i < count ∧ .interrupts i ∉ past ∧ ∃ j, .ended j ∈ past
  /-- It returns only after all actors and all interrupts. -/
  returns : ∀ {past}, may past .returns = true →
    ∀ i < count, .ended i ∈ past ∧ .interrupted i ∈ past
  /-- When an actor has returned, it calls the interrupts, unless it is in one. -/
  calls : ∀ {past i j}, j < count → .ended j ∈ past →
    (∀ k, .interrupts k ∈ past → .interrupted k ∈ past) →
    i < count → .interrupts i ∉ past → ∃ k, may past (.interrupts k) = true
  /-- When all actors and all interrupts have returned, so does the group. -/
  ends : ∀ {past}, (∀ i < count, .ended i ∈ past ∧ .interrupted i ∈ past) →
    may past .returns = true

/-- The next event is possible, where `ends` says which actors can return and `relieved` which
    interrupts can. -/
def possible (count : Nat) (may : List Event → Event → Bool) (ends relieved : Nat → Bool)
    (past : List Event) : Event → Bool
  | .ended i => decide (i < count) && !past.contains (.ended i) && ends i
  | .interrupts i => may past (.interrupts i)
  | .interrupted i =>
      past.contains (.interrupts i) && !past.contains (.interrupted i) && relieved i
  | .returns => !past.contains .returns && may past .returns

/-! ### What holds of the past -/

structure Sound (count : Nat) (past : List Event) : Prop where
  nodup : past.Nodup
  known : ∀ e ∈ past, e.Known count
  first : ∀ i, .interrupts i ∈ past → ∃ j, .ended j ∈ past
  called : ∀ i, .interrupted i ∈ past → .interrupts i ∈ past
  all : .returns ∈ past → ∀ i < count, .ended i ∈ past ∧ .interrupted i ∈ past

theorem sound_nil (count : Nat) : Sound count [] := by
  constructor <;> simp

variable {count : Nat} {may : List Event → Event → Bool} {ends relieved : Nat → Bool}
  {past : List Event}

theorem Sound.length_le (h : Sound count past) : past.length ≤ 3 * count + 1 := by
  have hsubset : past ⊆ events count := fun e he => mem_events.mpr (h.known e he)
  rw [← length_events count]
  exact (h.nodup.subperm hsubset).length_le

/-- Nothing but the event itself is new. -/
theorem Sound.cons (h : Sound count past) {e : Event} (hnew : e ∉ past) (hknown : e.Known count)
    (hfirst : ∀ i, e = .interrupts i → ∃ j, .ended j ∈ past)
    (hcalled : ∀ i, e = .interrupted i → .interrupts i ∈ past)
    (hall : e = .returns → ∀ i < count, .ended i ∈ past ∧ .interrupted i ∈ past) :
    Sound count (e :: past) where
  nodup := List.nodup_cons.mpr ⟨hnew, h.nodup⟩
  known := List.forall_mem_cons.mpr ⟨hknown, h.known⟩
  first i hi := by
    obtain ⟨j, hj⟩ := (List.mem_cons.mp hi).elim (fun heq => hfirst i heq.symm) (h.first i)
    exact ⟨j, List.mem_cons_of_mem e hj⟩
  called i hi := List.mem_cons_of_mem e <|
    (List.mem_cons.mp hi).elim (fun heq => hcalled i heq.symm) (h.called i)
  all hret i hi := by
    have hboth := (List.mem_cons.mp hret).elim (fun heq => hall heq.symm) h.all i hi
    exact ⟨List.mem_cons_of_mem e hboth.1, List.mem_cons_of_mem e hboth.2⟩

theorem Sound.next (h : Sound count past) (hmay : Conforms count may) {e : Event}
    (he : possible count may ends relieved past e = true) : Sound count (e :: past) := by
  cases e with
  | ended i =>
      simp only [possible, Bool.and_eq_true, decide_eq_true_eq, Bool.not_eq_true',
        List.contains_eq_mem, decide_eq_false_iff_not] at he
      exact h.cons he.1.2 he.1.1 (by simp) (by simp) (by simp)
  | interrupts i =>
      obtain ⟨hi, hnew, hfirst⟩ := hmay.interrupts he
      exact h.cons hnew hi (fun _ _ => hfirst) (by simp) (by simp)
  | interrupted i =>
      simp only [possible, Bool.and_eq_true, Bool.not_eq_true', List.contains_eq_mem,
        decide_eq_false_iff_not, decide_eq_true_eq] at he
      have hi : i < count := h.known _ he.1.1
      refine h.cons he.1.2 hi (by simp) (fun j hj => ?_) (by simp)
      cases hj
      exact he.1.1
  | returns =>
      simp only [possible, Bool.and_eq_true, Bool.not_eq_true', List.contains_eq_mem,
        decide_eq_false_iff_not] at he
      exact h.cons he.1 trivial (by simp) (by simp) (fun _ => hmay.returns he.2)

/-! ### What a group waits for -/

/-- A group that cannot go on has returned, or it waits for the first actor, for an interrupt, or
    for an actor that has been interrupted. -/
theorem Sound.waits (h : Sound count past) (hmay : Conforms count may)
    (hstuck : ∀ e, possible count may ends relieved past e = false) :
    .returns ∈ past ∨
      ((∀ j, .ended j ∉ past) ∧ ∀ i < count, ends i = false) ∨
      (∃ i, .interrupts i ∈ past ∧ relieved i = false) ∨
      (∃ i < count, .interrupted i ∈ past ∧ ends i = false) := by
  have hends : ∀ i < count, .ended i ∉ past → ends i = false := by
    intro i hi hnot
    simpa [possible, hi, hnot] using hstuck (.ended i)
  by_cases hreturned : .returns ∈ past
  · exact Or.inl hreturned
  right
  by_cases hfirst : ∃ j, .ended j ∈ past
  swap
  · rw [not_exists] at hfirst
    exact Or.inl ⟨hfirst, fun i hi => hends i hi (hfirst i)⟩
  right
  by_cases hinside : ∃ i, .interrupts i ∈ past ∧ .interrupted i ∉ past
  · obtain ⟨i, hcalled, hnot⟩ := hinside
    have hblocked := hstuck (.interrupted i)
    exact Or.inl ⟨i, hcalled, by simpa [possible, hcalled, hnot] using hblocked⟩
  right
  -- all interrupts have been called, and they have returned
  have hdone : ∀ i, .interrupts i ∈ past → .interrupted i ∈ past := by
    intro i hi
    by_contra hnot
    exact hinside ⟨i, hi, hnot⟩
  have hall : ∀ i < count, .interrupted i ∈ past := by
    intro i hi
    by_contra hnot
    obtain ⟨j, hj⟩ := hfirst
    obtain ⟨k, hk⟩ := hmay.calls (h.known _ hj) hj hdone hi fun hcalled => hnot (hdone i hcalled)
    exact Bool.noConfusion ((hstuck (.interrupts k)).symm.trans hk)
  by_contra hnone
  push Not at hnone
  have hended : ∀ i < count, .ended i ∈ past := by
    intro i hi
    by_contra hnot
    exact hnone i hi (hall i hi) (hends i hi hnot)
  have hmust := hmay.ends fun i hi => ⟨hended i hi, hall i hi⟩
  have hblocked := hstuck .returns
  simp [possible, hreturned, hmust] at hblocked

/-! ### A group that interrupts its actors in order -/

def inOrder (count : Nat) (past : List Event) : Event → Bool
  | .interrupts i =>
      decide (i < count) && !past.contains (.interrupts i) &&
        (List.range count).any (fun j => past.contains (.ended j)) &&
        (List.range i).all fun j => past.contains (.interrupted j)
  | .returns =>
      (List.range count).all fun i =>
        past.contains (.ended i) && past.contains (.interrupted i)
  | .ended _ | .interrupted _ => false

theorem inOrder_interrupts {i : Nat} : inOrder count past (.interrupts i) = true ↔
    i < count ∧ .interrupts i ∉ past ∧ (∃ j < count, .ended j ∈ past) ∧
      ∀ j < i, .interrupted j ∈ past := by
  simp [inOrder, and_assoc]

theorem inOrder_returns : inOrder count past .returns = true ↔
    ∀ i < count, .ended i ∈ past ∧ .interrupted i ∈ past := by
  simp [inOrder]

/-- The one to call is the first that was not called. -/
theorem conforms_inOrder (count : Nat) : Conforms count (inOrder count) where
  interrupts h := by
    obtain ⟨hi, hnew, ⟨j, -, hj⟩, -⟩ := inOrder_interrupts.mp h
    exact ⟨hi, hnew, j, hj⟩
  returns h := inOrder_returns.mp h
  calls := by
    intro past i j hcount hj hdone hi hnew
    have hex : ∃ k, .interrupts k ∉ past := ⟨i, hnew⟩
    have hle : Nat.find hex ≤ i := Nat.find_min' hex hnew
    refine ⟨Nat.find hex, inOrder_interrupts.mpr ⟨by omega, Nat.find_spec hex, ⟨j, hcount, hj⟩, ?_⟩⟩
    intro k hk
    exact hdone k (not_not.mp (Nat.find_min hex hk))
  ends h := inOrder_returns.mpr h

end RunGroup
