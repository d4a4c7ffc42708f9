import GoPlugin.Tally
import Mathlib.Tactic.Common

/-!
# Runs of labelled systems

A concurrent program is modelled by a state type and a partial step function:
`step s a` is the state after the action `a`, or `none` where `a` is not enabled
in `s`.  A run is a list of actions, so quantifying over runs quantifies over
every interleaving of the threads the actions belong to.

Side conditions on the environment (`guard s a`: the action `a` is only taken in
states that satisfy it) are kept apart from the step function.  `Along` says that
a whole run respects them, and `exec_invariant` is the induction that every safety
proof over such runs goes through.

`subrun` keeps some of the actions of a run, and `exec_subrun` makes them a run of a
second system.
-/

namespace LabelledSystem

open Tally

universe u v w x

variable {σ : Type u} {α : Type v} {τ : Type w} {β : Type x}

/-- Execute a list of actions; `none` as soon as one of them is not enabled. -/
def exec (step : σ → α → Option σ) : σ → List α → Option σ
  | s, [] => some s
  | s, a :: as => (step s a).bind fun s' => exec step s' as

/-- Every action of the run is taken in a state where `guard` allows it. -/
def Along (step : σ → α → Option σ) (guard : σ → α → Prop) : σ → List α → Prop
  | _, [] => True
  | s, a :: as =>
      guard s a ∧ match step s a with
        | some s' => Along step guard s' as
        | none => True

instance Along.decidable (step : σ → α → Option σ) (guard : σ → α → Prop)
    [∀ s a, Decidable (guard s a)] : ∀ s as, Decidable (Along step guard s as)
  | _, [] => isTrue trivial
  | s, a :: as =>
      match h : step s a with
      | some s' =>
          haveI := Along.decidable step guard s' as
          decidable_of_iff (guard s a ∧ Along step guard s' as) (by simp [Along, h])
      | none => decidable_of_iff (guard s a) (by simp [Along, h])

variable {step : σ → α → Option σ} {guard : σ → α → Prop}

@[simp] theorem exec_nil (s : σ) : exec step s [] = some s := rfl

theorem exec_cons_eq_some {s s' : σ} {a : α} {as : List α} :
    exec step s (a :: as) = some s' ↔
      ∃ t, step s a = some t ∧ exec step t as = some s' := by
  simp [exec, Option.bind_eq_some_iff]

theorem along_cons {s t : σ} {a : α} {as : List α} (ht : step s a = some t) :
    Along step guard s (a :: as) ↔ guard s a ∧ Along step guard t as := by
  simp [Along, ht]

/-- **The invariant rule.**  What the start state satisfies and every guarded step
    preserves holds at the end of every guarded run. -/
theorem exec_invariant {Inv : σ → Prop}
    (hstep : ∀ s a s', Inv s → guard s a → step s a = some s' → Inv s')
    {s s' : σ} {as : List α} (hs : Inv s) (hguard : Along step guard s as)
    (hrun : exec step s as = some s') : Inv s' := by
  induction as generalizing s with
  | nil =>
      simp only [exec_nil, Option.some.injEq] at hrun
      exact hrun ▸ hs
  | cons a as ih =>
      obtain ⟨t, ht, hrest⟩ := exec_cons_eq_some.mp hrun
      obtain ⟨hga, hgas⟩ := (along_cons ht).mp hguard
      exact ih (hstep s a t hs hga ht) hgas hrest

/-- Runs with no side condition respect the trivial guard. -/
theorem along_true (s : σ) (as : List α) : Along step (fun _ _ => True) s as := by
  induction as generalizing s with
  | nil => trivial
  | cons a as ih =>
      simp only [Along, true_and]
      split
      · exact ih _
      · trivial

/-- A condition on the actions alone. -/
theorem along_of_forall_mem {p : α → Prop} {as : List α} (h : ∀ a ∈ as, p a) (s : σ) :
    Along step (fun _ a => p a) s as := by
  induction as generalizing s with
  | nil => trivial
  | cons a as ih =>
      refine ⟨h a List.mem_cons_self, ?_⟩
      split
      · exact ih (fun b hb => h b (List.mem_cons_of_mem a hb)) _
      · trivial

/-- The invariant rule for unrestricted runs. -/
theorem exec_invariant_of_step {Inv : σ → Prop}
    (hstep : ∀ s a s', Inv s → step s a = some s' → Inv s')
    {s s' : σ} {as : List α} (hs : Inv s) (hrun : exec step s as = some s') : Inv s' :=
  exec_invariant (fun s a s' hi _ h => hstep s a s' hi h) hs (along_true s as) hrun

/-! ### Runs that end -/

/-- A run is not longer than what its steps use up. -/
theorem length_add_le_of_exec {Inv : σ → Prop} {μ : σ → Nat}
    (hstep : ∀ s a s', Inv s → step s a = some s' → Inv s' ∧ μ s' < μ s)
    {s s' : σ} {as : List α} (hs : Inv s) (hrun : exec step s as = some s') :
    as.length + μ s' ≤ μ s := by
  induction as generalizing s with
  | nil =>
      cases hrun
      exact Nat.le_of_eq (Nat.zero_add _)
  | cons a as ih =>
      obtain ⟨t, ht, hrest⟩ := exec_cons_eq_some.mp hrun
      obtain ⟨hInv, hless⟩ := hstep s a t hs ht
      have htail := ih hInv hrest
      rw [List.length_cons]
      omega

/-- The same for runs in which some actions add to what the steps use up. -/
theorem tally_add_le_of_invariant {Inv : σ → Prop} {μ : σ → Nat} {uses adds : α → Nat}
    (hstep : ∀ s a s', Inv s → step s a = some s' → Inv s' ∧ μ s' + uses a ≤ μ s + adds a)
    {s s' : σ} {as : List α} (hs : Inv s) (hrun : exec step s as = some s') :
    μ s' + tally uses as ≤ μ s + tally adds as := by
  induction as generalizing s with
  | nil =>
      cases hrun
      exact Nat.le_refl _
  | cons a as ih =>
      obtain ⟨t, ht, hrest⟩ := exec_cons_eq_some.mp hrun
      obtain ⟨hInv, hhead⟩ := hstep s a t hs ht
      have htail := ih hInv hrest
      rw [tally_cons, tally_cons]
      omega

theorem tally_add_le_of_exec {μ : σ → Nat} {uses adds : α → Nat}
    (hstep : ∀ s a s', step s a = some s' → μ s' + uses a ≤ μ s + adds a)
    {s s' : σ} {as : List α} (hrun : exec step s as = some s') :
    μ s' + tally uses as ≤ μ s + tally adds as :=
  tally_add_le_of_invariant (fun s a s' (_ : True) h => ⟨trivial, hstep s a s' h⟩) trivial hrun

/-- Where every step uses something up, the system comes to rest. -/
theorem exists_exec_stuck {Inv : σ → Prop} {μ : σ → Nat}
    (hstep : ∀ s a s', Inv s → step s a = some s' → Inv s' ∧ μ s' < μ s) {s : σ} (hs : Inv s) :
    ∃ as s', exec step s as = some s' ∧ ∀ a, step s' a = none := by
  induction hn : μ s using Nat.strongRecOn generalizing s with
  | ind n ih =>
      by_cases hstuck : ∀ a, step s a = none
      · exact ⟨[], s, rfl, hstuck⟩
      · push Not at hstuck
        obtain ⟨a, ha⟩ := hstuck
        obtain ⟨t, ht⟩ := Option.ne_none_iff_exists'.mp ha
        obtain ⟨hInv, hless⟩ := hstep s a t hs ht
        obtain ⟨as, s', hrun, hend⟩ := ih (μ t) (hn ▸ hless) hInv rfl
        exact ⟨a :: as, s', exec_cons_eq_some.mpr ⟨t, ht, hrun⟩, hend⟩

/-! ### Two systems side by side -/

/-- **The lockstep rule.**  Where related states can take the same actions, to related states
    again, so can they take the same runs. -/
theorem exec_lockstep {step' : τ → α → Option τ} {R : σ → τ → Prop} {p : α → Prop}
    (hstep : ∀ s t a, R s t → p a → Option.Rel R (step s a) (step' t a))
    {s : σ} {t : τ} {as : List α} (hR : R s t) (hp : ∀ a ∈ as, p a) :
    Option.Rel R (exec step s as) (exec step' t as) := by
  induction as generalizing s t with
  | nil => exact .some hR
  | cons a as ih =>
      have ha := hstep s t a hR (hp a List.mem_cons_self)
      unfold exec
      generalize step s a = x at ha
      generalize step' t a = y at ha
      cases ha with
      | some hR' => exact ih hR' fun b hb => hp b (List.mem_cons_of_mem a hb)
      | none => exact .none

/-! ### Sub-runs -/

/-- What is left of a run when each action is seen through `view`, which keeps it, possibly
    under another name, or hides it. -/
def subrun (step : σ → α → Option σ) (view : σ → α → Option β) : σ → List α → List β
  | _, [] => []
  | s, a :: as =>
      (view s a).toList ++ match step s a with
        | some s' => subrun step view s' as
        | none => []

variable {view : σ → α → Option β}

theorem subrun_cons {s t : σ} {a : α} {as : List α} (ht : step s a = some t) :
    subrun step view s (a :: as) = (view s a).toList ++ subrun step view t as := by
  simp [subrun, ht]

/-- **The projection rule.**  Where a second system can follow every action that is kept, and
    the hidden ones do not concern it, the sub-run of every run is a run of that system. -/
theorem exec_subrun {step' : τ → β → Option τ} {R : σ → τ → Prop}
    (hkeep : ∀ s a s' t b, R s t → step s a = some s' → view s a = some b →
      ∃ t', step' t b = some t' ∧ R s' t')
    (hhide : ∀ s a s' t, R s t → step s a = some s' → view s a = none → R s' t)
    {s s' : σ} {t : τ} {as : List α} (hR : R s t) (hrun : exec step s as = some s') :
    ∃ t', exec step' t (subrun step view s as) = some t' ∧ R s' t' := by
  induction as generalizing s t with
  | nil =>
      cases hrun
      exact ⟨t, rfl, hR⟩
  | cons a as ih =>
      obtain ⟨s₁, hs₁, hrest⟩ := exec_cons_eq_some.mp hrun
      rw [subrun_cons hs₁]
      cases hview : view s a with
      | none => exact ih (hhide s a s₁ t hR hs₁ hview) hrest
      | some b =>
          obtain ⟨t₁, ht₁, hR₁⟩ := hkeep s a s₁ t b hR hs₁ hview
          obtain ⟨t', ht', hR'⟩ := ih hR₁ hrest
          exact ⟨t', exec_cons_eq_some.mpr ⟨t₁, ht₁, ht'⟩, hR'⟩

/-- What every action that `view` shows satisfies holds of all actions of the sub-run. -/
theorem forall_mem_subrun {P : β → Prop} (hP : ∀ s a b, view s a = some b → P b) {s : σ}
    {as : List α} {b : β} (hb : b ∈ subrun step view s as) : P b := by
  induction as generalizing s with
  | nil => cases hb
  | cons a as ih =>
      rw [subrun, List.mem_append] at hb
      rcases hb with hb | hb
      · exact hP s a b (Option.mem_toList.mp hb)
      · split at hb
        · exact ih hb
        · cases hb

/-- Labels that `view` keeps are those of the sub-run. -/
theorem filterMap_subrun {γ : Type*} {f : α → Option γ} {g : β → Option γ}
    (hview : ∀ s a, (view s a).bind g = f a) {s s' : σ} {as : List α}
    (hrun : exec step s as = some s') :
    (subrun step view s as).filterMap g = as.filterMap f := by
  induction as generalizing s with
  | nil => rfl
  | cons a as ih =>
      obtain ⟨s₁, hs₁, hrest⟩ := exec_cons_eq_some.mp hrun
      rw [subrun_cons hs₁, List.filterMap_append, ih hrest, List.filterMap_cons, ← hview s a]
      cases view s a with
      | none => rfl
      | some b => cases hg : g b <;> simp [hg]

end LabelledSystem
