import Mathlib.Tactic.Common

/-!
# Bodies of Go functions

A piece of a function's body works on a state, which every way out leaves as it is: control goes
on with a value, or the function returns its results, or it panics, or the process exits.
Deferred functions run where the function returns or panics.
-/

namespace GoBody

variable {σ ρ α β : Type}

/-- How a piece of a body ends. -/
inductive Flow (ρ α : Type) where
  | next (a : α)
  | ret (r : ρ)
  | panic
  | exit
deriving DecidableEq, Repr

def Flow.exits {ρ α : Type} : Flow ρ α → Bool
  | .exit => true
  | _ => false

/-- A piece of the body of a function with results in `ρ`. -/
def Body (σ ρ α : Type) : Type := σ → Flow ρ α × σ

namespace Body

/-- One piece after the other. -/
def andThen (x : Body σ ρ α) (f : α → Body σ ρ β) : Body σ ρ β := fun s =>
  match x s with
  | (.next a, s') => f a s'
  | (.ret r, s') => (.ret r, s')
  | (.panic, s') => (.panic, s')
  | (.exit, s') => (.exit, s')

instance : Monad (Body σ ρ) where
  pure a := fun s => (.next a, s)
  bind := andThen

theorem andThen_assoc {γ : Type} (x : Body σ ρ α) (f : α → Body σ ρ β) (g : β → Body σ ρ γ) :
    andThen (andThen x f) g = andThen x fun a => andThen (f a) g := by
  funext s
  unfold andThen
  rcases x s with ⟨_ | _ | _ | _, s'⟩ <;> rfl

theorem andThen_next (x : Body σ ρ α) : andThen x (fun a s => (.next a, s)) = x := by
  funext s
  unfold andThen
  rcases x s with ⟨_ | _ | _ | _, s'⟩ <;> rfl

instance : LawfulMonad (Body σ ρ) :=
  .mk' _ andThen_next (fun _ _ => rfl) andThen_assoc

/-- `return r`. -/
def ret (r : ρ) : Body σ ρ α := fun s => (.ret r, s)

def crash : Body σ ρ α := fun s => (.panic, s)

/-- `os.Exit`. -/
def exit : Body σ ρ α := fun s => (.exit, s)

/-- The state at this point. -/
def read : Body σ ρ σ := fun s => (.next s, s)

/-- Assignments. -/
def update (f : σ → σ) : Body σ ρ Unit := fun s => (.next (), f s)

/-- The call of a function, whose results are the value. -/
def call (x : Body σ β β) : Body σ ρ β := fun s =>
  match x s with
  | (.next r, s') => (.next r, s')
  | (.ret r, s') => (.next r, s')
  | (.panic, s') => (.panic, s')
  | (.exit, s') => (.exit, s')

/-- The rest of a function after a `defer` statement.  The deferred function sees the results, or
    none where the function panics. -/
def withDefer (deferred : Option ρ → σ → σ) (x : Body σ ρ ρ) : Body σ ρ ρ := fun s =>
  match x s with
  | (.next r, s') => (.ret r, deferred (some r) s')
  | (.ret r, s') => (.ret r, deferred (some r) s')
  | (.panic, s') => (.panic, deferred none s')
  | (.exit, s') => (.exit, s')

/-- A piece that works on a part of the state. -/
def within {τ : Type} (get : σ → τ) (put : τ → σ → σ) (x : Body τ ρ α) : Body σ ρ α := fun s =>
  ((x (get s)).1, put (x (get s)).2 s)

section Steps

variable {x : Body σ ρ α} {f : α → Body σ ρ β} {s s' : σ}

theorem bind_of_next {a : α} (h : x s = (.next a, s')) : (x >>= f) s = f a s' := by
  show andThen x f s = f a s'
  rw [andThen, h]

theorem bind_of_ret {r : ρ} (h : x s = (.ret r, s')) : (x >>= f) s = (.ret r, s') := by
  show andThen x f s = (.ret r, s')
  rw [andThen, h]

theorem bind_of_panic (h : x s = (.panic, s')) : (x >>= f) s = (.panic, s') := by
  show andThen x f s = (.panic, s')
  rw [andThen, h]

@[simp] theorem pure_bind_apply (a : α) : (pure a >>= f) s = f a s := rfl

@[simp] theorem read_bind_apply (g : σ → Body σ ρ β) : (read >>= g) s = g s s := rfl

@[simp] theorem update_bind_apply (g : σ → σ) (h : Unit → Body σ ρ β) :
    (update g >>= h) s = h () (g s) := rfl

end Steps

/-- A piece keeps a property of the state, however it ends, and the process does not exit. -/
def Keeps (P : σ → Prop) (x : Body σ ρ α) : Prop := ∀ s, P s → (x s).1.exits = false ∧ P (x s).2

section Keeps

variable {P : σ → Prop} {x : Body σ ρ α} {f : α → Body σ ρ β}

theorem Keeps.pure (a : α) : Keeps P (Pure.pure a : Body σ ρ α) := by
  intro s hs
  exact ⟨rfl, hs⟩

theorem Keeps.ret (r : ρ) : Keeps P (Body.ret r : Body σ ρ α) := by
  intro s hs
  exact ⟨rfl, hs⟩

theorem Keeps.crash : Keeps P (Body.crash : Body σ ρ α) := by
  intro s hs
  exact ⟨rfl, hs⟩

theorem Keeps.update {g : σ → σ} (h : ∀ s, P s → P (g s)) :
    Keeps P (Body.update g : Body σ ρ Unit) := by
  intro s hs
  exact ⟨rfl, h s hs⟩

theorem Keeps.bind (hx : Keeps P x) (hf : ∀ s s' a, x s = (.next a, s') → Keeps P (f a)) :
    Keeps P (x >>= f) := by
  intro s hs
  have hs' := hx s hs
  show (andThen x f s).1.exits = false ∧ P (andThen x f s).2
  unfold andThen
  split
  · next heq =>
      rw [heq] at hs'
      exact hf _ _ _ heq _ hs'.2
  · next heq =>
      rw [heq] at hs'
      exact ⟨rfl, hs'.2⟩
  · next heq =>
      rw [heq] at hs'
      exact ⟨rfl, hs'.2⟩
  · next heq =>
      rw [heq] at hs'
      cases hs'.1

/-- The deferred function sees the state that the rest of the function leaves. -/
theorem withDefer_of_exits (deferred : Option ρ → σ → σ) {y : Body σ ρ ρ} {s : σ}
    (h : (y s).1.exits = false) :
    ∃ flow r, withDefer deferred y s = (flow, deferred r (y s).2) := by
  unfold withDefer
  split
  · next heq => exact ⟨_, _, by rw [heq]⟩
  · next heq => exact ⟨_, _, by rw [heq]⟩
  · next heq => exact ⟨_, _, by rw [heq]⟩
  · next heq =>
      rw [heq] at h
      cases h

end Keeps

end Body

end GoBody
