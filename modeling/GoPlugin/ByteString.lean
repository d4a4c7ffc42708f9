import Mathlib.Tactic.Common

/-!
# Byte strings

Byte strings as lists of bytes, with the encodings that programs exchange over
streams and environment variables.
-/

/-- A string of bytes. -/
abbrev ByteString := List UInt8

namespace ByteString

/-! ### Four-byte little-endian words -/

/-- The four bytes of `n`, lowest first. -/
def putUint32 (n : UInt32) : ByteString :=
  [UInt8.ofNat n.toNat, UInt8.ofNat (n.toNat / 256), UInt8.ofNat (n.toNat / 65536),
    UInt8.ofNat (n.toNat / 16777216)]

/-- Read a word off the front; `none` where fewer than four bytes are there. -/
def getUint32 : ByteString → Option (UInt32 × ByteString)
  | a :: b :: c :: d :: rest =>
      some (UInt32.ofNat
        (a.toNat + 256 * b.toNat + 65536 * c.toNat + 16777216 * d.toNat), rest)
  | _ => none

/-- Reading gives back the word that was written, and leaves what follows it. -/
@[simp] theorem getUint32_putUint32_append (n : UInt32) (rest : ByteString) :
    getUint32 (putUint32 n ++ rest) = some (n, rest) := by
  have hn : n.toNat < 4294967296 := n.toNat_lt
  have hword : UInt32.ofNat (n.toNat % 256 + 256 * (n.toNat / 256 % 256)
      + 65536 * (n.toNat / 65536 % 256) + 16777216 * (n.toNat / 16777216 % 256)) = n := by
    apply UInt32.toNat_inj.mp
    simp only [UInt32.toNat_ofNat']
    omega
  simp only [putUint32, List.cons_append, List.nil_append, getUint32, UInt8.toNat_ofNat']
  exact congrArg (fun w => some (w, rest)) hword

theorem length_of_getUint32 {bs rest : ByteString} {n : UInt32}
    (h : getUint32 bs = some (n, rest)) : bs.length = rest.length + 4 := by
  unfold getUint32 at h
  split at h
  · simp only [Option.some.injEq, Prod.mk.injEq] at h
    simp [← h.2]
  · cases h

/-- What starts with a word reads as that word. -/
theorem getUint32_of_isPrefix {bs rest : ByteString} {n w : UInt32}
    (hword : putUint32 n <+: bs) (h : getUint32 bs = some (w, rest)) : w = n := by
  obtain ⟨tail, rfl⟩ := hword
  simp only [getUint32_putUint32_append, Option.some.injEq, Prod.mk.injEq] at h
  exact h.1.symm

end ByteString
