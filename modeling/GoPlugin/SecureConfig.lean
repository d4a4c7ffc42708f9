import GoPlugin.ByteString
import Mathlib.Data.List.Basic

/-!
# Checksums of executables (`SecureConfig.Check`)

`Check` copies the file into the hash that the caller has put into the configuration, and never
resets it.  What a call finds is the hash of everything that was copied since the hash was made:
the file's own contents for the first call that reads anything, and for no other.
-/

/-! ### Streaming hashes -/

/-- `hash.Hash`, with the laws of writing. -/
structure StreamingHash where
  State : Type
  fresh : State
  write : State → ByteString → State
  sum : State → ByteString
  write_nil : ∀ s, write s [] = s
  write_write : ∀ s a b, write (write s a) b = write s (a ++ b)

namespace StreamingHash

variable (h : StreamingHash)

/-- The hash of a string, from a fresh state. -/
def digest (s : ByteString) : ByteString := h.sum (h.write h.fresh s)

/-- Piece by piece. -/
def writeAll (s : h.State) (chunks : List ByteString) : h.State := chunks.foldl h.write s

theorem writeAll_eq_write (s : h.State) (chunks : List ByteString) :
    h.writeAll s chunks = h.write s chunks.flatten := by
  induction chunks generalizing s with
  | nil => exact (h.write_nil s).symm
  | cons chunk chunks ih =>
      rw [writeAll, List.foldl_cons, List.flatten_cons, ← h.write_write]
      exact ih (h.write s chunk)

/-- The sum of the bytes. -/
def additive : StreamingHash where
  State := UInt8
  fresh := 0
  write s bytes := bytes.foldl (· + ·) s
  sum s := [s]
  write_nil _ := rfl
  write_write _ _ _ := List.foldl_append.symm

end StreamingHash

namespace GoPlugin

/-! ### The check -/

/-- What a file gives to `os.Open` and `io.Copy`: nothing, or pieces up to an error, or pieces up
    to its end. -/
inductive FileRead where
  | noFile
  | broken (chunks : List ByteString)
  | whole (chunks : List ByteString)
deriving DecidableEq, Repr

/-- What is copied from the file. -/
def FileRead.copied : FileRead → ByteString
  | .noFile => []
  | .broken chunks | .whole chunks => chunks.flatten

inductive CheckError where
  | noChecksum
  | noHash
  | openFile
  | readFile
deriving DecidableEq, Repr

/-- A configuration with a hash in some state; `none` where `Hash` is nil. -/
structure SecureConfig (h : StreamingHash) where
  checksum : ByteString
  hash : Option h.State

namespace SecureConfig

variable {h : StreamingHash}

/-- `Check`. -/
def check (s : SecureConfig h) (file : FileRead) : Except CheckError Bool × SecureConfig h :=
  if s.checksum = [] then (.error .noChecksum, s)
  else
    match s.hash with
    | none => (.error .noHash, s)
    | some state =>
        match file with
        | .noFile => (.error .openFile, s)
        | .broken chunks => (.error .readFile, { s with hash := some (h.writeAll state chunks) })
        | .whole chunks =>
            let state := h.writeAll state chunks
            (.ok (h.sum state == s.checksum), { s with hash := some state })

/-- The results of one call after the other. -/
def checks (s : SecureConfig h) : List FileRead → List (Except CheckError Bool)
  | [] => []
  | file :: files => (s.check file).1 :: (s.check file).2.checks files

/-- A configuration that has never been used. -/
def fresh (h : StreamingHash) (checksum : ByteString) : SecureConfig h := ⟨checksum, some h.fresh⟩

/-- A configuration that has copied `copied`. -/
def used (h : StreamingHash) (checksum copied : ByteString) : SecureConfig h :=
  ⟨checksum, some (h.write h.fresh copied)⟩

theorem used_nil (checksum : ByteString) : used h checksum [] = fresh h checksum := by
  rw [used, h.write_nil, fresh]

section Calls

variable {checksum : ByteString} (hchecksum : checksum ≠ [])
include hchecksum

/-- A call adds what it copies. -/
theorem check_used (copied : ByteString) (file : FileRead) :
    ((used h checksum copied).check file).2 = used h checksum (copied ++ file.copied) := by
  rw [check, used, if_neg hchecksum]
  cases file with
  | noFile => rw [used, FileRead.copied, List.append_nil]
  | broken chunks =>
      simp only [used, FileRead.copied, h.writeAll_eq_write, h.write_write]
  | whole chunks =>
      simp only [used, FileRead.copied, h.writeAll_eq_write, h.write_write]

/-- **What `Check` compares:** the hash of everything that was copied so far. -/
theorem check_whole (copied : ByteString) (chunks : List ByteString) :
    ((used h checksum copied).check (.whole chunks)).1 =
      .ok (h.digest (copied ++ chunks.flatten) == checksum) := by
  rw [check, used, if_neg hchecksum]
  simp only [h.writeAll_eq_write, h.write_write, StreamingHash.digest]

/-- The same in a run of calls. -/
theorem checks_whole (copied : ByteString) (files : List FileRead) (i : Nat)
    (chunks : List ByteString) (hfile : files[i]? = some (.whole chunks)) :
    ((used h checksum copied).checks files)[i]? =
      some (.ok (h.digest (copied ++ ((files.take i).map FileRead.copied).flatten ++
        chunks.flatten) == checksum)) := by
  induction files generalizing copied i with
  | nil => cases hfile
  | cons file files ih =>
      rw [checks]
      cases i with
      | zero =>
          cases hfile
          rw [List.getElem?_cons_zero, check_whole hchecksum, List.take_zero, List.map_nil,
            List.flatten_nil, List.append_nil]
      | succ i =>
          rw [List.getElem?_cons_succ, check_used hchecksum, ih _ i hfile, List.take_succ_cons,
            List.map_cons, List.flatten_cons, List.append_assoc copied]

end Calls

/-- **A call that finds the hash untouched compares the file's own checksum:** in any run of
    calls, it reports a match exactly if the hash of the file's contents is the checksum,
    provided that no call before it has copied anything. -/
theorem checks_of_untouched (h : StreamingHash) (checksum : ByteString) (hchecksum : checksum ≠ [])
    (files : List FileRead) (i : Nat) (chunks : List ByteString)
    (hfile : files[i]? = some (.whole chunks))
    (huntouched : ∀ file ∈ files.take i, file.copied = []) :
    ∃ b, ((fresh h checksum).checks files)[i]? = some (.ok b) ∧
      (b = true ↔ h.digest chunks.flatten = checksum) := by
  have hnil : ((files.take i).map FileRead.copied).flatten = [] := by
    rw [List.flatten_eq_nil_iff]
    exact List.forall_mem_map.mpr huntouched
  have hrun := checks_whole (h := h) hchecksum [] files i chunks hfile
  rw [used_nil, hnil] at hrun
  exact ⟨_, hrun, beq_iff_eq⟩

/-- The file is not there at the first call. -/
theorem checks_of_untouched_retry :
    ∃ b, ((fresh .additive [6]).checks [.noFile, .whole [[1, 2], [3]]])[1]? = some (.ok b) ∧
      (b = true ↔ StreamingHash.additive.digest [1, 2, 3] = [6]) :=
  checks_of_untouched .additive [6] (by decide) [.noFile, .whole [[1, 2], [3]]] 1 [[1, 2], [3]] rfl
    (by decide)

/-- The same file matches once and then no more; and after a read that failed midway, a file that
    does not match is accepted. -/
theorem check_depends_on_history :
    (fresh .additive [6]).checks [.whole [[1, 2, 3]], .whole [[1, 2, 3]]] =
        [.ok true, .ok false] ∧
      (fresh .additive [6]).checks [.broken [[2]], .whole [[4]]] =
        [.error .readFile, .ok true] ∧
      StreamingHash.additive.digest [4] ≠ [6] :=
  ⟨rfl, rfl, by decide⟩

end SecureConfig

end GoPlugin
