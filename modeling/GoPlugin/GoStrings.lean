import GoPlugin.ByteString
import Mathlib.Data.Nat.Digits.Lemmas

/-!
# Go's `strings`, `strconv` and `bufio`

Go strings are byte strings, and `int` is a 64-bit integer.  `strings.Split` with a
one-byte separator is `List.splitOn`, and `strings.Join` is `List.intercalate`.  Of `bufio`
there is the first line that a `Scanner` reads.
-/

namespace ByteString

/-- An ASCII literal. -/
def ascii (s : String) : ByteString := s.toList.map fun c => UInt8.ofNat c.toNat

/-- `strings.Split(s, sep)`. -/
def split (sep : UInt8) (s : ByteString) : List ByteString := s.splitOn sep

/-- `strings.Join(parts, sep)`. -/
def join (sep : UInt8) (parts : List ByteString) : ByteString := [sep].intercalate parts

theorem split_join {sep : UInt8} {parts : List ByteString} (h : ∀ p ∈ parts, sep ∉ p)
    (hne : parts ≠ []) : split sep (join sep parts) = parts :=
  List.splitOn_intercalate sep h hne

/-- A separator splits what stands before it from what follows. -/
theorem split_append_cons (sep : UInt8) (s t : ByteString) :
    split sep (s ++ sep :: t) = split sep s ++ split sep t :=
  List.splitOnP_append_cons s t (beq_self_eq_true sep)

theorem split_of_notMem {sep : UInt8} {s : ByteString} (h : sep ∉ s) : split sep s = [s] := by
  refine List.splitOnP_eq_singleton fun c hc => ?_
  simpa using ne_of_mem_of_not_mem hc h

/-- The parts have the bytes of the string, but for the separator. -/
theorem mem_of_mem_split {sep c : UInt8} {s p : ByteString} (hp : p ∈ split sep s) (hc : c ∈ p) :
    c ≠ sep ∧ c ∈ s := by
  induction s generalizing p with
  | nil =>
      rw [split, List.splitOn_nil, List.mem_singleton] at hp
      rw [hp] at hc
      cases hc
  | cons b s ih =>
      rw [split, List.splitOn, List.splitOnP_cons_eq_if_modifyHead] at hp
      split at hp
      · rcases List.mem_cons.mp hp with rfl | hp
        · cases hc
        · exact (ih hp hc).imp id (List.mem_cons_of_mem b)
      · next hb =>
          match hparts : s.splitOnP (· == sep) with
          | [] => exact absurd hparts (List.splitOnP_ne_nil _ _)
          | q :: parts =>
              have hmem : ∀ r ∈ q :: parts, c ∈ r → c ≠ sep ∧ c ∈ s := by
                intro r hr
                exact ih (show r ∈ s.splitOnP (· == sep) from hparts ▸ hr)
              rw [hparts, List.modifyHead_cons] at hp
              rcases List.mem_cons.mp hp with rfl | hp
              · rcases List.mem_cons.mp hc with rfl | hc
                · exact ⟨by simpa using hb, List.mem_cons_self⟩
                · exact (hmem q List.mem_cons_self hc).imp id (List.mem_cons_of_mem b)
              · exact (hmem p (List.mem_cons_of_mem q hp) hc).imp id (List.mem_cons_of_mem b)

/-! ### White space -/

/-- The UTF-8 encodings of the characters that `unicode.IsSpace` accepts. -/
def spaces : List ByteString :=
  [[9], [10], [11], [12], [13], [32], [194, 133], [194, 160], [225, 154, 128]]
    ++ (List.range 11).map (fun i => [226, 128, UInt8.ofNat (128 + i)])
    ++ [[226, 128, 168], [226, 128, 169], [226, 128, 175], [226, 129, 159], [227, 128, 128]]

/-- Take patterns off the front, at most `n` times. -/
def stripN (pats : List ByteString) : Nat → ByteString → ByteString
  | 0, s => s
  | n + 1, s =>
      match pats.find? fun p => p.isPrefixOf s with
      | some p => stripN pats n (s.drop p.length)
      | none => s

/-- Take patterns off the front as long as there are any. -/
def strip (pats : List ByteString) (s : ByteString) : ByteString := stripN pats s.length s

/-- `strings.TrimLeftFunc(s, unicode.IsSpace)`. -/
def trimLeft (s : ByteString) : ByteString := strip spaces s

/-- `strings.TrimRightFunc(s, unicode.IsSpace)`. -/
def trimRight (s : ByteString) : ByteString :=
  (strip (spaces.map List.reverse) s.reverse).reverse

/-- `strings.TrimSpace`. -/
def trimSpace (s : ByteString) : ByteString := trimRight (trimLeft s)

section Strip

variable {pats : List ByteString} {c : UInt8}

/-- What starts with a byte that starts no pattern stays as it is. -/
theorem strip_cons (h : ∀ p ∈ pats, p ≠ [] ∧ p.head? ≠ some c) (s : ByteString) :
    strip pats (c :: s) = c :: s := by
  have hfind : (pats.find? fun p => p.isPrefixOf (c :: s)) = none := by
    refine List.find?_eq_none.mpr fun p hp => ?_
    obtain ⟨hne, hhead⟩ := h p hp
    cases p with
    | nil => exact absurd rfl hne
    | cons d p =>
        have hdc : d ≠ c := fun hdc => hhead (by simp [hdc])
        simp [List.isPrefixOf, hdc]
  simp only [strip, List.length_cons, stripN, hfind]

/-- A pattern without `c` that starts what is before `c` and after it starts what is before. -/
theorem isPrefixOf_append_cons {p : ByteString} (h : c ∉ p) (s t : ByteString) :
    p.isPrefixOf (s ++ c :: t) = p.isPrefixOf s := by
  rw [Bool.eq_iff_iff, List.isPrefixOf_iff_prefix, List.isPrefixOf_iff_prefix]
  refine ⟨fun hpre => ?_, fun hpre => hpre.trans (List.prefix_append s _)⟩
  rcases List.prefix_or_prefix_of_prefix hpre (List.prefix_append s _) with hs | ⟨r, rfl⟩
  · exact hs
  · cases r with
    | nil => simp
    | cons d r =>
        have hd : d = c := (List.cons_prefix_cons.mp ((List.prefix_append_right_inj s).mp hpre)).1
        exact absurd (by simp [hd]) h

theorem find?_isPrefixOf_append (h : ∀ p ∈ pats, c ∉ p) (s t : ByteString) :
    (pats.find? fun p => p.isPrefixOf (s ++ c :: t)) = pats.find? fun p => p.isPrefixOf s := by
  induction pats with
  | nil => rfl
  | cons p pats ih =>
      rw [List.find?_cons, List.find?_cons, isPrefixOf_append_cons (h p List.mem_cons_self),
        ih fun q hq => h q (List.mem_cons_of_mem p hq)]

theorem isPrefix_of_find? {s p : ByteString}
    (h : (pats.find? fun p => p.isPrefixOf s) = some p) : p <+: s := by
  have hp := List.find?_some h
  exact List.isPrefixOf_iff_prefix.mp hp

/-- A byte that is in no pattern stops the stripping. -/
theorem stripN_append (h : ∀ p ∈ pats, c ∉ p) (n : Nat) (s t : ByteString) :
    stripN pats n (s ++ c :: t) = stripN pats n s ++ c :: t := by
  induction n generalizing s with
  | zero => rfl
  | succ n ih =>
      simp only [stripN, find?_isPrefixOf_append h]
      cases hs : pats.find? fun p => p.isPrefixOf s with
      | none => rfl
      | some p =>
          simp only [List.drop_append_of_le_length (isPrefix_of_find? hs).length_le, ih]

/-- Stripping ends before it runs out of steps. -/
theorem stripN_eq_strip (h : ∀ p ∈ pats, p ≠ []) {n : Nat} {s : ByteString} (hn : s.length ≤ n) :
    stripN pats n s = strip pats s := by
  have key : ∀ n m (s : ByteString), s.length ≤ n → s.length ≤ m →
      stripN pats n s = stripN pats m s := by
    intro n
    induction n with
    | zero =>
        intro m s hn _
        rw [List.length_eq_zero_iff.mp (Nat.le_zero.mp hn)]
        cases m with
        | zero => rfl
        | succ m =>
            have hfind : (pats.find? fun p => p.isPrefixOf ([] : ByteString)) = none :=
              List.find?_eq_none.mpr fun p hp => by simpa using h p hp
            simp [stripN, hfind]
    | succ n ih =>
        intro m s hn hm
        cases hs : pats.find? fun p => p.isPrefixOf s with
        | none => cases m <;> simp [stripN, hs]
        | some p =>
            have hlen : 0 < p.length :=
              List.length_pos_iff.mpr (h p (List.mem_of_find?_eq_some hs))
            have hle := (isPrefix_of_find? hs).length_le
            cases m with
            | zero => omega
            | succ m =>
                simp only [stripN, hs]
                exact ih m _ (by rw [List.length_drop]; omega) (by rw [List.length_drop]; omega)
  exact key n s.length s hn (Nat.le_refl _)

theorem strip_append (hc : ∀ p ∈ pats, c ∉ p) (hne : ∀ p ∈ pats, p ≠ []) (s t : ByteString) :
    strip pats (s ++ c :: t) = strip pats s ++ c :: t := by
  rw [strip, stripN_append hc, stripN_eq_strip hne]
  simp

/-- What is left is the end of the string. -/
theorem stripN_isSuffix (n : Nat) (s : ByteString) : stripN pats n s <:+ s := by
  induction n generalizing s with
  | zero => exact List.suffix_refl s
  | succ n ih =>
      unfold stripN
      split
      · exact (ih _).trans (List.drop_suffix _ s)
      · exact List.suffix_refl s

end Strip

/-- An ASCII byte that is not white space. -/
def printable (c : UInt8) : Prop := 33 ≤ c.toNat ∧ c.toNat < 128

instance : DecidablePred printable := fun c => by unfold printable; infer_instance

theorem printable.notMem_spaces {c : UInt8} (h : printable c) : ∀ p ∈ spaces, c ∉ p := by
  have hbytes : (spaces.all fun p => p.all fun b => b.toNat ≤ 32 || 128 ≤ b.toNat) = true := by
    decide
  intro p hp hc
  have hbyte := List.all_eq_true.mp (List.all_eq_true.mp hbytes p hp) c hc
  simp only [Bool.or_eq_true, decide_eq_true_eq] at hbyte
  unfold printable at h
  omega

theorem ne_nil_of_mem_spaces : ∀ p ∈ spaces, p ≠ [] := by decide

theorem trimLeft_cons {c : UInt8} (h : printable c) (s : ByteString) :
    trimLeft (c :: s) = c :: s := by
  refine strip_cons (fun p hp => ⟨ne_nil_of_mem_spaces p hp, fun hhead => ?_⟩) s
  exact h.notMem_spaces p hp (List.mem_of_head? hhead)

theorem trimRight_append_cons {c : UInt8} (h : printable c) (s t : ByteString) :
    trimRight (s ++ c :: t) = s ++ c :: trimRight t := by
  have hc : ∀ p ∈ spaces.map List.reverse, c ∉ p := by
    refine List.forall_mem_map.mpr fun p hp => ?_
    simpa using h.notMem_spaces p hp
  have hne : ∀ p ∈ spaces.map List.reverse, p ≠ [] := by
    refine List.forall_mem_map.mpr fun p hp => ?_
    simpa using ne_nil_of_mem_spaces p hp
  have hrev : (s ++ c :: t).reverse = t.reverse ++ c :: s.reverse := by simp
  rw [trimRight, hrev, strip_append hc hne]
  simp [trimRight]

/-- Printable strings have nothing to be trimmed at the end. -/
theorem trimRight_of_printable {s : ByteString} (h : ∀ c ∈ s, printable c) : trimRight s = s := by
  cases s using List.reverseRecOn with
  | nil => rfl
  | append_singleton s c =>
      have hc : printable c := h c (by simp)
      rw [trimRight_append_cons hc]
      rfl

theorem mem_of_mem_trimSpace {c : UInt8} {s : ByteString} (h : c ∈ trimSpace s) : c ∈ s := by
  have hleft : c ∈ trimLeft s := by
    rw [trimSpace, trimRight, List.mem_reverse] at h
    exact List.mem_reverse.mp ((stripN_isSuffix _ _).mem h)
  exact (stripN_isSuffix _ _).mem hleft

example : trimSpace (ascii " \t1|2 3\r\n") = ascii "1|2 3" := by decide

/-! ### Lines -/

def newline : UInt8 := 10

/-- `bufio.MaxScanTokenSize`. -/
def maxScanTokenSize : Nat := 65536

/-- What stands before the first line break. -/
def firstLine (s : ByteString) : ByteString := s.takeWhile (· ≠ newline)

/-- The carriage return that `bufio.ScanLines` takes off a line. -/
def dropCR (s : ByteString) : ByteString := if s.getLast? = some 13 then s.dropLast else s

/-- The first line that a `bufio.Scanner` reads; `none` at the end of the input and where the
    line does not fit into its buffer. -/
def scanLine (s : ByteString) : Option ByteString :=
  if s ≠ [] ∧ (firstLine s).length < maxScanTokenSize then some (dropCR (firstLine s)) else none

theorem firstLine_append {s : ByteString} (h : newline ∉ s) (t : ByteString) :
    firstLine (s ++ t) = s ++ firstLine t := by
  refine List.takeWhile_append_of_pos fun c hc => ?_
  simpa using ne_of_mem_of_not_mem hc h

theorem firstLine_append_of_mem {s : ByteString} (h : newline ∈ s) (t : ByteString) :
    firstLine (s ++ t) = firstLine s := by
  induction s with
  | nil => cases h
  | cons c s ih =>
      by_cases hc : c = newline
      · simp [firstLine, hc]
      · have htail := ih ((List.mem_cons.mp h).resolve_left (Ne.symm hc))
        simpa [firstLine, hc] using htail

theorem newline_notMem_firstLine (s : ByteString) : newline ∉ firstLine s := by
  intro h
  simpa using List.all_eq_true.mp List.all_takeWhile newline h

theorem firstLine_append_newline {s : ByteString} (h : newline ∉ s) (t : ByteString) :
    firstLine (s ++ newline :: t) = s := by
  rw [firstLine_append h]
  simp [firstLine]

/-- There is one way of taking the first line off. -/
theorem append_newline_inj {s s' t t' : ByteString} (hs : newline ∉ s) (hs' : newline ∉ s')
    (h : s ++ newline :: t = s' ++ newline :: t') : s = s' ∧ t = t' := by
  have hfirst : s = s' := by
    rw [← firstLine_append_newline hs t, h, firstLine_append_newline hs' t']
  rw [hfirst] at h
  exact ⟨hfirst, List.tail_eq_of_cons_eq (List.append_cancel_left h)⟩

/-- A piece of the first line leaves the rest of it. -/
theorem append_eq_append_newline {part s t u : ByteString} (hpart : newline ∉ part)
    (h : s ++ newline :: t = part ++ u) : ∃ s', s = part ++ s' ∧ u = s' ++ newline :: t := by
  rcases List.append_eq_append_iff.mp h with ⟨cs, hcs, htail⟩ | ⟨cs, hcs, htail⟩
  · cases cs with
    | nil => exact ⟨[], by rw [hcs]; simp, htail.symm⟩
    | cons c cs =>
        cases htail
        rw [hcs] at hpart
        exact absurd (List.mem_append_right s List.mem_cons_self) hpart
  · exact ⟨cs, hcs, htail⟩

theorem mem_of_mem_dropCR {c : UInt8} {s : ByteString} (h : c ∈ dropCR s) : c ∈ s := by
  unfold dropCR at h
  split at h
  · exact List.mem_of_mem_dropLast h
  · exact h

theorem newline_notMem_of_scanLine {s line : ByteString} (h : scanLine s = some line) :
    newline ∉ line := by
  unfold scanLine at h
  split at h
  · cases h
    exact fun hmem => newline_notMem_firstLine s (mem_of_mem_dropCR hmem)
  · cases h

theorem dropCR_append_cons {c : UInt8} (hc : c ≠ 13) (s t : ByteString) :
    dropCR (s ++ c :: t) = s ++ c :: dropCR t := by
  cases t using List.reverseRecOn with
  | nil => simp [dropCR, hc]
  | append_singleton t d =>
      have hassoc : s ++ c :: (t ++ [d]) = (s ++ c :: t) ++ [d] := by simp
      simp only [dropCR, hassoc, List.getLast?_concat, List.dropLast_concat]
      split <;> simp

theorem dropCR_of_printable {s : ByteString} (h : ∀ c ∈ s, printable c) : dropCR s = s := by
  refine if_neg fun hlast => ?_
  have hcr := h 13 (List.mem_of_getLast? hlast)
  revert hcr
  decide

example : scanLine (ascii "1|2\r\n3") = some (ascii "1|2") := by decide

/-! ### Booleans -/

/-- `strconv.ParseBool`; `none` on an error. -/
def parseBool (s : ByteString) : Option Bool :=
  if s ∈ ["1", "t", "T", "true", "TRUE", "True"].map ascii then some true
  else if s ∈ ["0", "f", "F", "false", "FALSE", "False"].map ascii then some false
  else none

/-! ### Decimal numbers -/

/-- The byte of a decimal digit. -/
def digit (d : Nat) : UInt8 := UInt8.ofNat (48 + d)

/-- The value of a byte that is a decimal digit. -/
def digitVal (c : UInt8) : Option Nat :=
  if 48 ≤ c.toNat ∧ c.toNat ≤ 57 then some (c.toNat - 48) else none

/-- `strconv.FormatUint(n, 10)`. -/
def formatUint (n : Nat) : ByteString :=
  if n = 0 then [digit 0] else (Nat.digits 10 n).reverse.map digit

/-- The value of a string of digits that follow `acc`. -/
def readDigits : Nat → ByteString → Option Nat
  | acc, [] => some acc
  | acc, c :: s => (digitVal c).bind fun d => readDigits (10 * acc + d) s

/-- `strconv.ParseUint(s, 10, _)` before its range check. -/
def parseUint (s : ByteString) : Option Nat := if s = [] then none else readDigits 0 s

/-- `strconv.Itoa`. -/
def itoa (n : Int64) : ByteString :=
  if n.toInt < 0 then 45 :: formatUint n.toInt.natAbs else formatUint n.toInt.natAbs

/-- `strconv.ParseInt(s, 10, bits)`: an optional sign, digits, and a value in range; `none` on
    its errors. -/
def parseInt (bits : Nat) (s : ByteString) : Option Int64 :=
  match s with
  | 45 :: t => (parseUint t).bind fun n =>
      if n ≤ 2 ^ (bits - 1) then some (Int64.ofInt (-n)) else none
  | 43 :: t => (parseUint t).bind fun n =>
      if n < 2 ^ (bits - 1) then some (Int64.ofInt n) else none
  | _ => (parseUint s).bind fun n =>
      if n < 2 ^ (bits - 1) then some (Int64.ofInt n) else none

/-- `strconv.Atoi`. -/
def atoi (s : ByteString) : Option Int64 := parseInt 64 s

theorem toNat_digit {d : Nat} (h : d < 10) : (digit d).toNat = 48 + d := by
  simp only [digit, UInt8.toNat_ofNat']
  omega

@[simp] theorem digitVal_digit {d : Nat} (h : d < 10) : digitVal (digit d) = some d := by
  simp only [digitVal, toNat_digit h]
  rw [if_pos (by omega)]
  simp

theorem readDigits_append (acc : Nat) (s t : ByteString) :
    readDigits acc (s ++ t) = (readDigits acc s).bind fun n => readDigits n t := by
  induction s generalizing acc with
  | nil => rfl
  | cons c s ih =>
      simp only [List.cons_append, readDigits]
      cases digitVal c with
      | none => rfl
      | some d => simp only [Option.bind_some, ih]

theorem readDigits_digits (ds : List Nat) (h : ∀ d ∈ ds, d < 10) :
    readDigits 0 (ds.reverse.map digit) = some (Nat.ofDigits 10 ds) := by
  induction ds with
  | nil => rfl
  | cons d ds ih =>
      have hd := h d List.mem_cons_self
      rw [List.reverse_cons, List.map_append, readDigits_append,
        ih fun e he => h e (List.mem_cons_of_mem d he)]
      simp only [List.map_cons, List.map_nil, Option.bind_some, readDigits, digitVal_digit hd,
        Nat.ofDigits_cons]
      congr 1
      omega

theorem formatUint_ne_nil (n : Nat) : formatUint n ≠ [] := by
  unfold formatUint
  split
  · simp
  · next h => simpa [Nat.digits_eq_nil_iff_eq_zero] using h

theorem parseUint_formatUint (n : Nat) : parseUint (formatUint n) = some n := by
  rw [parseUint, if_neg (formatUint_ne_nil n), formatUint]
  split
  · next h =>
      subst h
      rfl
  · rw [readDigits_digits _ fun d hd => Nat.digits_lt_base (by omega) hd, Nat.ofDigits_digits]

/-- The bytes of a formatted number are digits. -/
theorem mem_formatUint {n : Nat} {c : UInt8} (h : c ∈ formatUint n) :
    48 ≤ c.toNat ∧ c.toNat ≤ 57 := by
  unfold formatUint at h
  split at h
  · rw [List.mem_singleton.mp h]
    decide
  · obtain ⟨d, hd, rfl⟩ := List.mem_map.mp h
    have hlt := Nat.digits_lt_base (by omega) (List.mem_reverse.mp hd)
    rw [toNat_digit hlt]
    omega

/-- The bytes of an `Itoa` are digits and a minus sign. -/
theorem mem_itoa {n : Int64} {c : UInt8} (h : c ∈ itoa n) :
    c = 45 ∨ (48 ≤ c.toNat ∧ c.toNat ≤ 57) := by
  unfold itoa at h
  split at h
  · rcases List.mem_cons.mp h with rfl | hc
    · exact Or.inl rfl
    · exact Or.inr (mem_formatUint hc)
  · exact Or.inr (mem_formatUint h)

/-- A 64-bit number has at most 19 digits and a sign. -/
theorem length_itoa_le (n : Int64) : (itoa n).length ≤ 20 := by
  have hlt := n.toInt_lt
  have hle := n.le_toInt
  have hformat : (formatUint n.toInt.natAbs).length ≤ 19 := by
    unfold formatUint
    split
    · simp
    · rw [List.length_map, List.length_reverse, Nat.digits_length_le_iff (by omega)]
      omega
  unfold itoa
  split
  · rw [List.length_cons]
    omega
  · omega

/-- A string of digits has no sign. -/
theorem parseInt_formatUint (bits n : Nat) :
    parseInt bits (formatUint n) =
      if n < 2 ^ (bits - 1) then some (Int64.ofInt n) else none := by
  have hhead : ∀ c t, formatUint n = c :: t → c ≠ 45 ∧ c ≠ 43 := by
    intro c t hc
    have hmem := mem_formatUint (n := n) (c := c) (by simp [hc])
    constructor <;> rintro rfl <;> revert hmem <;> decide
  unfold parseInt
  split
  · next t heq => exact absurd rfl (hhead _ t heq).1
  · next t heq => exact absurd rfl (hhead _ t heq).2
  · rw [parseUint_formatUint, Option.bind_some]

theorem atoi_formatUint {n : Nat} (h : n < 2 ^ 63) :
    atoi (formatUint n) = some (Int64.ofInt n) := by
  rw [atoi, parseInt_formatUint]
  exact if_pos h

theorem ofInt_of_parseInt {bits : Nat} {s : ByteString} {n : Int64}
    (h : parseInt bits s = some n) :
    ∃ v : Int, n = Int64.ofInt v ∧ -2 ^ (bits - 1) ≤ v ∧ v < 2 ^ (bits - 1) := by
  have hunsigned : ∀ {t : ByteString}, ((parseUint t).bind fun u =>
      if u < 2 ^ (bits - 1) then some (Int64.ofInt u) else none) = some n →
      ∃ v : Int, n = Int64.ofInt v ∧ -2 ^ (bits - 1) ≤ v ∧ v < 2 ^ (bits - 1) := by
    intro t ht
    obtain ⟨u, -, hu⟩ := Option.bind_eq_some_iff.mp ht
    split at hu
    · next hlt =>
        have hlt' : (u : Int) < 2 ^ (bits - 1) := by exact_mod_cast hlt
        cases hu
        exact ⟨u, rfl, by omega, hlt'⟩
    · cases hu
  unfold parseInt at h
  split at h
  · obtain ⟨u, -, hu⟩ := Option.bind_eq_some_iff.mp h
    split at hu
    · next hle =>
        have hle' : (u : Int) ≤ 2 ^ (bits - 1) := by exact_mod_cast hle
        have hpos : (0 : Int) < 2 ^ (bits - 1) := by positivity
        cases hu
        exact ⟨-u, rfl, by omega, by omega⟩
    · cases hu
  · exact hunsigned h
  · exact hunsigned h

/-- The value has so many bits. -/
theorem toInt_of_parseInt {bits : Nat} (hbits : bits ≤ 64) {s : ByteString} {n : Int64}
    (h : parseInt bits s = some n) : -2 ^ (bits - 1) ≤ n.toInt ∧ n.toInt < 2 ^ (bits - 1) := by
  obtain ⟨v, rfl, hle, hlt⟩ := ofInt_of_parseInt h
  have hpow : (2 : Int) ^ (bits - 1) ≤ 2 ^ 63 := by
    exact_mod_cast Nat.pow_le_pow_right (n := 2) (by omega) (show bits - 1 ≤ 63 by omega)
  rw [Int64.toInt_ofInt_of_le (by omega) (by omega)]
  exact ⟨hle, hlt⟩

/-- **`Atoi` undoes `Itoa`.** -/
@[simp] theorem atoi_itoa (n : Int64) : atoi (itoa n) = some n := by
  have hlt := n.toInt_lt
  have hle := n.le_toInt
  unfold itoa
  split
  · next hneg =>
      simp only [atoi, parseInt, parseUint_formatUint, Option.bind_some]
      rw [if_pos (by omega), show -((n.toInt.natAbs : Nat) : Int) = n.toInt by omega,
        Int64.ofInt_toInt]
  · next hpos =>
      rw [atoi_formatUint (by omega), show ((n.toInt.natAbs : Nat) : Int) = n.toInt by omega,
        Int64.ofInt_toInt]

example : atoi (ascii "-9223372036854775808") = some (-9223372036854775808) := by decide
example : atoi (ascii "9223372036854775808") = none := by decide
example : (atoi (ascii "+7"), atoi (ascii ""), atoi (ascii "-"), atoi (ascii " 7")) =
    (some 7, none, none, none) := by decide

end ByteString
