import Mathlib.Tactic.Common

/-!
# Host and plugin

Models of both processes keep one component for each side, and most of what is said of
them is said of one side and its peer.
-/

namespace GoPlugin

universe u

inductive Side where
  | host | plugin
deriving DecidableEq, Repr

/-- The other process. -/
def Side.peer : Side → Side
  | .host => .plugin
  | .plugin => .host

@[simp] theorem Side.peer_peer (s : Side) : s.peer.peer = s := by
  cases s <;> rfl

theorem Side.peer_ne (s : Side) : s.peer ≠ s := by
  cases s <;> simp [peer]

theorem Side.eq_or_eq_peer (s t : Side) : t = s ∨ t = s.peer := by
  cases s <;> cases t <;> simp [peer]

/-- One value for each side. -/
structure Both (α : Type u) where
  host : α
  plugin : α
deriving DecidableEq, Repr

namespace Both

variable {α : Type u}

def get (b : Both α) : Side → α
  | .host => b.host
  | .plugin => b.plugin

def set (b : Both α) (s : Side) (a : α) : Both α :=
  match s with
  | .host => { b with host := a }
  | .plugin => { b with plugin := a }

@[simp] theorem get_set_self (b : Both α) (s : Side) (a : α) : (b.set s a).get s = a := by
  cases s <;> rfl

@[simp] theorem get_set_peer (b : Both α) (s : Side) (a : α) :
    (b.set s a).get s.peer = b.get s.peer := by
  cases s <;> rfl

@[simp] theorem get_peer_set (b : Both α) (s : Side) (a : α) :
    (b.set s.peer a).get s = b.get s := by
  cases s <;> rfl

/-- What holds of one side's new value and of the other side's old one. -/
theorem forall_get_set {P : α → Prop} {b : Both α} {s : Side} {a : α} (ha : P a)
    (hpeer : P (b.get s.peer)) (t : Side) : P ((b.set s a).get t) := by
  rcases Side.eq_or_eq_peer s t with rfl | rfl
  · simpa using ha
  · simpa using hpeer

end Both

end GoPlugin
