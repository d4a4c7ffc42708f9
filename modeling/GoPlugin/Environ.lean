import GoPlugin.ByteString
import Mathlib.Data.Option.Basic

/-!
# Process environments

An environment is a list of `key=value` strings.  A process that is started with one sees
the last value given for a key, as `os/exec` removes earlier duplicates.
-/

namespace Environ

/-- The string that gives `key` the value `value`. -/
def entry (key value : ByteString) : ByteString := key ++ 61 :: value

/-- An entry is split at its first equals sign. -/
def splitEntry : ByteString → Option (ByteString × ByteString)
  | [] => none
  | c :: s => if c = 61 then some ([], s) else (splitEntry s).map fun x => (c :: x.1, x.2)

/-- The value that the entry gives `key`, if any. -/
def valueOf (key e : ByteString) : Option ByteString :=
  match splitEntry e with
  | some (k, v) => if k = key then some v else none
  | none => none

/-- The last value given for `key`. -/
def lookup (key : ByteString) : List ByteString → Option ByteString
  | [] => none
  | e :: env => (lookup key env).or (valueOf key e)

/-- `os.Getenv` in a process that was started with the environment. -/
def getenv (env : List ByteString) (key : ByteString) : ByteString :=
  if key = [] then [] else (lookup key env).getD []

@[simp] theorem lookup_nil (key : ByteString) : lookup key [] = none := rfl

@[simp] theorem lookup_cons (key e : ByteString) (env : List ByteString) :
    lookup key (e :: env) = (lookup key env).or (valueOf key e) := rfl

/-- What comes later wins. -/
@[simp] theorem lookup_append (key : ByteString) (env env' : List ByteString) :
    lookup key (env ++ env') = (lookup key env').or (lookup key env) := by
  induction env with
  | nil => simp
  | cons e env ih => simp [ih, Option.or_assoc]

theorem splitEntry_entry {key : ByteString} (h : 61 ∉ key) (value : ByteString) :
    splitEntry (entry key value) = some (key, value) := by
  induction key with
  | nil => rfl
  | cons c key ih =>
      have hc : c ≠ 61 := fun hc => h (hc ▸ List.mem_cons_self)
      have htail := ih fun hmem => h (List.mem_cons_of_mem c hmem)
      rw [entry] at htail
      simp [entry, splitEntry, hc, htail]

theorem valueOf_entry {key k : ByteString} (h : 61 ∉ k) (value : ByteString) :
    valueOf key (entry k value) = if k = key then some value else none := by
  simp [valueOf, splitEntry_entry h]

end Environ
