import GoPlugin.LabelledSystem
import GoPlugin.Tally

/-!
# Closing something once, under a lock

Any number of callers run `lock; if x != nil { close(x); x = nil }; unlock`.  Whoever comes first
closes, the others find nothing left, and nobody returns before it is closed.  The statements of a
caller are steps of their own, so the lock is what keeps two callers from closing both.
-/

namespace LockedClose

open Tally LabelledSystem

/-- Where a caller stands. -/
inductive Pc where
  | locking
  | checking     -- before it compares the reference with `nil`
  | closing
  | clearing     -- before it sets the reference to `nil`
  | unlocking
  | returned
deriving DecidableEq, Repr

/-- The caller holds the lock. -/
def Pc.inside : Pc → Bool
  | .locking | .returned => false
  | _ => true

def Pc.stepsLeft : Pc → Nat
  | .locking => 5
  | .checking => 4
  | .closing => 3
  | .clearing => 2
  | .unlocking => 1
  | .returned => 0

structure Guarded where
  present : Bool         -- the reference is not `nil`
  closed : Nat           -- how often it has been closed
  lock : Option Nat
  callers : List Pc
deriving DecidableEq, Repr

namespace Guarded

def init : Guarded := ⟨true, 0, none, []⟩

/-- Another call. -/
def enter (g : Guarded) : Guarded := { g with callers := g.callers ++ [.locking] }

/-- The `k`-th caller goes on. -/
def step (g : Guarded) (k : Nat) : Option Guarded :=
  match g.callers[k]? with
  | some .locking =>
      if g.lock = none then some { g with lock := some k, callers := g.callers.set k .checking }
      else none
  | some .checking =>
      some { g with callers := g.callers.set k (if g.present then .closing else .unlocking) }
  | some .closing => some { g with closed := g.closed + 1, callers := g.callers.set k .clearing }
  | some .clearing => some { g with present := false, callers := g.callers.set k .unlocking }
  | some .unlocking => some { g with lock := none, callers := g.callers.set k .returned }
  | some .returned | none => none

/-- What one step can do. -/
inductive Next (g : Guarded) (k : Nat) : Guarded → Prop where
  | lock (hk : g.callers[k]? = some .locking) (hfree : g.lock = none) :
      Next g k { g with lock := some k, callers := g.callers.set k .checking }
  | found (hk : g.callers[k]? = some .checking) (hpresent : g.present = true) :
      Next g k { g with callers := g.callers.set k .closing }
  | missed (hk : g.callers[k]? = some .checking) (hpresent : g.present = false) :
      Next g k { g with callers := g.callers.set k .unlocking }
  | close (hk : g.callers[k]? = some .closing) :
      Next g k { g with closed := g.closed + 1, callers := g.callers.set k .clearing }
  | clear (hk : g.callers[k]? = some .clearing) :
      Next g k { g with present := false, callers := g.callers.set k .unlocking }
  | unlock (hk : g.callers[k]? = some .unlocking) :
      Next g k { g with lock := none, callers := g.callers.set k .returned }

theorem next_of_step {g g' : Guarded} {k : Nat} (h : g.step k = some g') : Next g k g' := by
  unfold step at h
  split at h
  · next hk =>
      split at h
      · next hfree =>
          cases h
          exact .lock hk hfree
      · cases h
  · next hk =>
      by_cases hpresent : g.present = true
      · rw [if_pos hpresent] at h
        cases h
        exact .found hk hpresent
      · rw [if_neg hpresent] at h
        cases h
        exact .missed hk (Bool.eq_false_iff.mpr hpresent)
  · next hk =>
      cases h
      exact .close hk
  · next hk =>
      cases h
      exact .clear hk
  · next hk =>
      cases h
      exact .unlock hk
  · cases h
  · cases h

/-- What is known where a caller stands. -/
def Fits (g : Guarded) : Pc → Prop
  | .locking | .checking => True
  | .closing => g.present = true ∧ g.closed = 0
  | .clearing => g.closed = 1
  | .unlocking | .returned => g.present = false

structure Sound (g : Guarded) : Prop where
  inside : ∀ (k : Nat) pc, g.callers[k]? = some pc → (pc.inside = true ↔ g.lock = some k)
  holder : ∀ (k : Nat), g.lock = some k → ∃ pc, g.callers[k]? = some pc
  fits : ∀ (k : Nat) pc, g.callers[k]? = some pc → g.Fits pc
  absent : g.present = false → g.closed = 1
  fresh : g.present = true → g.closed = 0 ∨ ∃ k : Nat, g.callers[k]? = some .clearing

variable {g g' : Guarded} {k : Nat}

theorem sound_init : Sound init where
  inside k pc h := by simp [init] at h
  holder k h := by cases h
  fits k pc h := by simp [init] at h
  absent h := by cases h
  fresh _ := Or.inl rfl

theorem Sound.closed_le_one (h : Sound g) : g.closed ≤ 1 := by
  cases hpresent : g.present with
  | false => exact Nat.le_of_eq (h.absent hpresent)
  | true =>
      rcases h.fresh hpresent with hzero | ⟨k, hk⟩
      · omega
      · exact Nat.le_of_eq (h.fits k _ hk)

/-- Nobody returns before it is closed. -/
theorem Sound.closed_of_returned (h : Sound g) (hk : g.callers[k]? = some .returned) :
    g.closed = 1 :=
  h.absent (h.fits k _ hk)

theorem Sound.enter (h : Sound g) : Sound g.enter where
  inside k pc hk := by
    rcases getElem?_concat_cases hk with hold | ⟨rfl, rfl⟩
    · exact h.inside k pc hold
    · refine ⟨(by intro hin; cases hin), fun hlock => ?_⟩
      obtain ⟨pc, hpc⟩ := h.holder _ hlock
      simp at hpc
  holder k hlock := by
    obtain ⟨pc, hpc⟩ := h.holder k hlock
    exact ⟨pc, getElem?_concat_of_some hpc _⟩
  fits k pc hk := by
    rcases getElem?_concat_cases hk with hold | ⟨-, rfl⟩
    · exact h.fits k pc hold
    · trivial
  absent := h.absent
  fresh hpresent := by
    rcases h.fresh hpresent with hzero | ⟨k, hk⟩
    · exact Or.inl hzero
    · exact Or.inr ⟨k, getElem?_concat_of_some hk _⟩

/-! ### A step -/

/-- The reference does not come back. -/
theorem present_of_step (h : g.step k = some g') (hpresent : g'.present = true) :
    g.present = true := by
  cases next_of_step h with
  | clear => cases hpresent
  | lock | found | missed | close | unlock => exact hpresent

theorem closed_le_of_step (h : g.step k = some g') : g.closed ≤ g'.closed := by
  cases next_of_step h with
  | close => exact Nat.le_succ _
  | lock | found | missed | clear | unlock => exact Nat.le_refl _

theorem length_callers_step (h : g.step k = some g') : g'.callers.length = g.callers.length := by
  cases next_of_step h <;> exact List.length_set

theorem enter_ne_nil (g : Guarded) : g.enter.callers ≠ [] := by
  simp [Guarded.enter]

/-- Two callers are not inside at the same time. -/
theorem Sound.eq_of_inside (h : Sound g) {j k : Nat} {pc pc' : Pc} (hj : g.callers[j]? = some pc)
    (hk : g.callers[k]? = some pc') (hpc : pc.inside = true) (hpc' : pc'.inside = true) :
    j = k := by
  have hj' := (h.inside j pc hj).mp hpc
  rw [(h.inside k pc' hk).mp hpc', Option.some.injEq] at hj'
  exact hj'.symm

/-- The caller that holds the lock goes on and keeps it. -/
theorem Sound.advance (h : Sound g) {pc : Pc} (pc' : Pc) (hk : g.callers[k]? = some pc)
    (hin : pc.inside = true) (hin' : pc'.inside = true)
    (hg' : g' = { g with
      present := g'.present, closed := g'.closed, callers := g.callers.set k pc' })
    (hfits : g'.Fits pc') (hkeep : ∀ pc, pc.inside = false → g.Fits pc → g'.Fits pc)
    (habsent : g'.present = false → g'.closed = 1)
    (hfresh : g'.present = true → g'.closed = 0 ∨ pc' = .clearing) : Sound g' := by
  have hlock : g'.lock = g.lock := by rw [hg']
  have hcallers : g'.callers = g.callers.set k pc' := by rw [hg']
  refine ⟨?_, ?_, ?_, habsent, ?_⟩
  · intro j q hj
    rw [hcallers] at hj
    rw [hlock]
    rcases getElem?_set_cases hj with ⟨rfl, rfl⟩ | ⟨-, hold⟩
    · exact ⟨fun _ => (h.inside k pc hk).mp hin, fun _ => hin'⟩
    · exact h.inside j q hold
  · intro j hj
    rw [hlock] at hj
    obtain ⟨q, hq⟩ := h.holder j hj
    rw [hcallers]
    rcases getElem?_set_of_some hq k pc' with ⟨-, hset⟩ | ⟨-, hset⟩
    · exact ⟨pc', hset⟩
    · exact ⟨q, hset⟩
  · intro j q hj
    rw [hcallers] at hj
    rcases getElem?_set_cases hj with ⟨-, rfl⟩ | ⟨hne, hold⟩
    · exact hfits
    · refine hkeep q ?_ (h.fits j q hold)
      -- another caller is outside
      cases hq : q.inside with
      | false => rfl
      | true => exact absurd (h.eq_of_inside hk hold hin hq) hne
  · intro hpresent
    rcases hfresh hpresent with hzero | rfl
    · exact Or.inl hzero
    · refine Or.inr ⟨k, ?_⟩
      rw [hcallers, List.getElem?_set_self (List.getElem?_eq_some_iff.mp hk).1]

/-- Nobody has found the reference and not yet closed it, where a caller is inside that has not
    closed it either. -/
theorem Sound.closed_eq_zero (h : Sound g) {pc : Pc} (hk : g.callers[k]? = some pc)
    (hin : pc.inside = true) (hpc : pc ≠ .clearing) (hpresent : g.present = true) :
    g.closed = 0 := by
  rcases h.fresh hpresent with hzero | ⟨j, hj⟩
  · exact hzero
  · have hjk := h.eq_of_inside hj hk rfl hin
    rw [hjk, hk] at hj
    exact absurd (Option.some.inj hj) hpc

theorem Sound.step (h : Sound g) (hstep : g.step k = some g') : Sound g' := by
  cases next_of_step hstep with
  | lock hk hfree =>
      have hlt := (List.getElem?_eq_some_iff.mp hk).1
      refine ⟨?_, ?_, ?_, h.absent, ?_⟩
      · intro j q hj
        rcases getElem?_set_cases hj with ⟨rfl, rfl⟩ | ⟨hne, hold⟩
        · exact ⟨fun _ => rfl, fun _ => rfl⟩
        · rw [h.inside j q hold, hfree]
          simp [hne]
      · rintro j ⟨rfl⟩
        exact ⟨_, List.getElem?_set_self hlt⟩
      · intro j q hj
        rcases getElem?_set_cases hj with ⟨-, rfl⟩ | ⟨-, hold⟩
        · trivial
        · exact h.fits j q hold
      · intro hpresent
        rcases h.fresh hpresent with hzero | ⟨j, hj⟩
        · exact Or.inl hzero
        · have hlock := (h.inside j _ hj).mp rfl
          rw [hfree] at hlock
          cases hlock
  | found hk hpresent =>
      have hzero := h.closed_eq_zero hk rfl (by simp) hpresent
      exact h.advance .closing hk rfl rfl rfl ⟨hpresent, hzero⟩ (fun _ _ hfit => hfit) h.absent
        fun _ => Or.inl hzero
  | missed hk hpresent =>
      refine h.advance .unlocking hk rfl rfl rfl hpresent (fun _ _ hfit => hfit) h.absent ?_
      intro htrue
      rw [hpresent] at htrue
      cases htrue
  | close hk =>
      obtain ⟨hpresent, hzero⟩ := h.fits k _ hk
      refine h.advance .clearing hk rfl rfl rfl ?_ ?_ ?_ fun _ => Or.inr rfl
      · exact congrArg (· + 1) hzero
      · intro q hq hfit
        cases q with
        | locking => trivial
        | returned => exact hfit
        | checking | closing | clearing | unlocking => cases hq
      · intro hfalse
        rw [hpresent] at hfalse
        cases hfalse
  | clear hk =>
      refine h.advance .unlocking hk rfl rfl rfl rfl ?_ (fun _ => h.fits k _ hk) ?_
      · intro q hq hfit
        cases q with
        | locking => trivial
        | returned => rfl
        | checking | closing | clearing | unlocking => cases hq
      · intro htrue
        cases htrue
  | unlock hk =>
      refine ⟨?_, ?_, ?_, h.absent, ?_⟩
      · intro j q hj
        rcases getElem?_set_cases hj with ⟨rfl, rfl⟩ | ⟨hne, hold⟩
        · exact ⟨(by intro hin; cases hin), (by intro hnone; cases hnone)⟩
        · refine ⟨fun hin => ?_, (by intro hnone; cases hnone)⟩
          exact absurd (h.eq_of_inside hk hold rfl hin) hne
      · intro j hj
        cases hj
      · intro j q hj
        rcases getElem?_set_cases hj with ⟨-, rfl⟩ | ⟨-, hold⟩
        · exact h.fits k _ hk
        · exact h.fits j q hold
      · intro htrue
        have hfalse : g.present = false := h.fits k _ hk
        rw [hfalse] at htrue
        cases htrue

/-! ### Progress -/

def stepsLeft (g : Guarded) : Nat := tally Pc.stepsLeft g.callers

theorem stepsLeft_enter (g : Guarded) : g.enter.stepsLeft = g.stepsLeft + 5 := by
  simp [Guarded.enter, Guarded.stepsLeft, Pc.stepsLeft]

theorem stepsLeft_step (h : g.step k = some g') : g'.stepsLeft < g.stepsLeft := by
  -- a caller trades its number for a smaller one
  have hless : ∀ {pc pc' : Pc}, g.callers[k]? = some pc → pc'.stepsLeft < pc.stepsLeft →
      tally Pc.stepsLeft (g.callers.set k pc') < tally Pc.stepsLeft g.callers := by
    intro pc pc' hk hpc
    have := tally_set Pc.stepsLeft pc' hk
    omega
  cases next_of_step h with
  | lock hk | found hk | missed hk | close hk | clear hk | unlock hk => exact hless hk (by decide)

/-- Where nobody can go on, everybody has returned. -/
theorem Sound.all_returned (h : Sound g) (hstuck : ∀ k, g.step k = none) {k : Nat} {pc : Pc}
    (hk : g.callers[k]? = some pc) : pc = .returned := by
  -- whoever holds the lock can go on
  have hfree : g.lock = none := by
    cases hlock : g.lock with
    | none => rfl
    | some j =>
        obtain ⟨q, hq⟩ := h.holder j hlock
        have hin := (h.inside j q hq).mpr hlock
        have hj := hstuck j
        unfold Guarded.step at hj
        rw [hq] at hj
        cases q with
        | locking | returned => cases hin
        | checking | closing | clearing | unlocking => cases hj
  have hout : pc.inside = false := by
    cases hin : pc.inside with
    | false => rfl
    | true =>
        have hlock := (h.inside k pc hk).mp hin
        rw [hfree] at hlock
        cases hlock
  cases pc with
  | returned => rfl
  | locking =>
      have hk' := hstuck k
      unfold Guarded.step at hk'
      rw [hk] at hk'
      dsimp only at hk'
      rw [if_pos hfree] at hk'
      cases hk'
  | checking | closing | clearing | unlocking => cases hout

end Guarded

end LockedClose
