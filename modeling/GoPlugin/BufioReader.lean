import GoPlugin.GoStrings

/-!
# `io.Reader` and `bufio.Reader`

A reader hands out a stream in pieces, which the caller cannot choose: a read may return nothing,
or less than was asked for, or the last bytes together with the error.  `bufio.Reader` collects
the pieces in a buffer.  What its methods return is described here by the bytes that are still to
come, whatever the pieces are.
-/

namespace Bufio

open ByteString

inductive ReadError where
  | eof
  | noProgress
  | other (code : Nat)
deriving DecidableEq, Repr

/-- So many reads without a byte or an error, and `bufio` gives up. -/
def maxConsecutiveEmptyReads : Nat := 100

/-- How a reader hands out a piece of its stream: after `idle` reads that return nothing, at most
    `more + 1` bytes, and the error together with them where these are the last ones. -/
structure Piece where
  idle : Nat
  more : Nat
  together : Bool
deriving DecidableEq, Repr

/-- An `io.Reader`: what it has not returned, the pieces in which it will do so (without limit
    when they have run out), and the error at the end. -/
structure Source where
  rest : ByteString
  pieces : List Piece
  last : ReadError
deriving DecidableEq, Repr

namespace Source

/-- At most `n` bytes, or the error where there are none. -/
def deliver (r : Source) (n : Nat) (together : Bool) (pieces : List Piece) :
    ByteString × Option ReadError × Source :=
  if r.rest = [] then ([], some r.last, { r with pieces := pieces })
  else (r.rest.take n, if together && (r.rest.drop n).isEmpty then some r.last else none,
    { r with rest := r.rest.drop n, pieces := pieces })

/-- `Read` into `n` bytes. -/
def read (r : Source) (n : Nat) : ByteString × Option ReadError × Source :=
  match r.pieces with
  | [] => r.deliver n false []
  | ⟨0, more, together⟩ :: pieces => r.deliver (min n (more + 1)) together pieces
  | ⟨idle + 1, more, together⟩ :: pieces =>
      ([], none, { r with pieces := ⟨idle, more, together⟩ :: pieces })

/-- How many of the next reads return nothing. -/
def idle (r : Source) : Nat :=
  match r.pieces with
  | [] => 0
  | p :: _ => p.idle

/-- What a read that is not idle returns. -/
inductive Delivered (r : Source) (n : Nat) : ByteString × Option ReadError × Source → Prop where
  | ended {r' : Source} (hrest : r.rest = []) (hrest' : r'.rest = []) (hlast : r'.last = r.last) :
      Delivered r n ([], some r.last, r')
  | data {bytes : ByteString} {err : Option ReadError} {r' : Source} (hne : bytes ≠ [])
      (hle : bytes.length ≤ n) (hrest : bytes ++ r'.rest = r.rest) (hlast : r'.last = r.last)
      (herr : ∀ e, err = some e → e = r.last ∧ r'.rest = []) : Delivered r n (bytes, err, r')

theorem delivered_deliver (r : Source) {k n : Nat} (hk : 0 < k) (hle : k ≤ n) (together : Bool)
    (pieces : List Piece) : Delivered r n (r.deliver k together pieces) := by
  unfold deliver
  split
  · next hrest => exact .ended hrest hrest rfl
  · next hrest =>
      refine .data ?_ ?_ (List.take_append_drop k r.rest) rfl ?_
      · intro hnil
        rcases List.take_eq_nil_iff.mp hnil with hzero | hempty
        · omega
        · exact hrest hempty
      · exact (List.length_take_le k r.rest).trans hle
      · intro e he
        split at he
        · next hend =>
            cases he
            rw [Bool.and_eq_true, List.isEmpty_iff] at hend
            exact ⟨rfl, hend.2⟩
        · cases he

/-- A read is idle, or it delivers. -/
theorem read_cases (r : Source) {n : Nat} (hn : 0 < n) :
    (∃ r', r.read n = ([], none, r') ∧ r'.rest = r.rest ∧ r'.last = r.last ∧
        r'.idle + 1 = r.idle) ∨
      Delivered r n (r.read n) := by
  unfold read
  split
  · exact Or.inr (delivered_deliver r hn (Nat.le_refl n) _ _)
  · exact Or.inr (delivered_deliver r (by omega) (Nat.min_le_left n _) _ _)
  · next hpieces =>
      refine Or.inl ⟨_, rfl, rfl, rfl, ?_⟩
      unfold idle
      rw [hpieces]

/-- Any read returns the next bytes, and an error only with the last ones. -/
theorem read_rest (r : Source) {n : Nat} (hn : 0 < n) :
    (r.read n).1 ++ (r.read n).2.2.rest = r.rest ∧ (r.read n).1.length ≤ n ∧
      (r.read n).2.2.last = r.last ∧
      ∀ e, (r.read n).2.1 = some e → e = r.last ∧ (r.read n).2.2.rest = [] := by
  rcases r.read_cases hn with ⟨r', hread, hrest, hlast, -⟩ | hdelivered
  · rw [hread]
    refine ⟨hrest, Nat.zero_le n, hlast, ?_⟩
    intro e he
    cases he
  · generalize r.read n = x at hdelivered
    cases hdelivered with
    | ended hrest hrest' hlast =>
        refine ⟨hrest'.trans hrest.symm, Nat.zero_le n, hlast, ?_⟩
        intro e he
        cases he
        exact ⟨rfl, hrest'⟩
    | data hne hle hrest hlast herr => exact ⟨hrest, hle, hlast, herr⟩

/-- The reader is never idle so often that `bufio` gives up on it. -/
def Lively (r : Source) : Prop := ∀ p ∈ r.pieces, p.idle < maxConsecutiveEmptyReads

theorem Lively.idle_lt {r : Source} (h : r.Lively) : r.idle < maxConsecutiveEmptyReads := by
  unfold idle
  split
  · exact Nat.succ_pos 99
  · next hpieces => exact h _ (by rw [hpieces]; exact List.mem_cons_self)

theorem pieces_deliver (r : Source) (n : Nat) (together : Bool) (pieces : List Piece) :
    (r.deliver n together pieces).2.2.pieces = pieces := by
  unfold deliver
  split <;> rfl

theorem Lively.read {r : Source} (h : r.Lively) (n : Nat) : (r.read n).2.2.Lively := by
  have htail : ∀ {p pieces}, r.pieces = p :: pieces →
      ∀ q ∈ pieces, q.idle < maxConsecutiveEmptyReads := by
    intro p pieces hpieces q hq
    exact h q (by rw [hpieces]; exact List.mem_cons_of_mem p hq)
  unfold Source.read
  split
  · unfold Lively
    rw [pieces_deliver]
    exact List.forall_mem_nil _
  · next hpieces =>
      unfold Lively
      rw [pieces_deliver]
      exact htail hpieces
  · next idle more together pieces hpieces =>
      have hhead := h ⟨idle + 1, more, together⟩ (by rw [hpieces]; exact List.mem_cons_self)
      refine List.forall_mem_cons.mpr ⟨?_, htail hpieces⟩
      dsimp only at hhead ⊢
      omega

/-- Whether the error comes together with the last one of `n` bytes, if every read has room for
    all that is left. -/
def lastTogether : Nat → List Piece → Bool
  | _, [] => false
  | n, p :: pieces =>
      if n ≤ p.more + 1 then p.together else lastTogether (n - (p.more + 1)) pieces

/-- The same for what is left of the stream, when the last read has returned `err`. -/
def endsTogether (r : Source) (err : Option ReadError) : Bool :=
  if r.rest = [] then err.isSome else lastTogether r.rest.length r.pieces

theorem endsTogether_deliver (r : Source) (hne : r.rest ≠ []) (n : Nat) (together : Bool)
    (pieces : List Piece) :
    (r.deliver n together pieces).2.2.endsTogether (r.deliver n together pieces).2.1 =
      if r.rest.length ≤ n then together else lastTogether (r.rest.length - n) pieces := by
  unfold deliver
  rw [if_neg hne]
  by_cases hle : r.rest.length ≤ n
  · have hdrop : r.rest.drop n = [] := List.drop_eq_nil_of_le hle
    cases together <;> simp [endsTogether, hdrop, hle]
  · have hdrop : r.rest.drop n ≠ [] := by
      intro hnil
      exact hle (List.drop_eq_nil_iff.mp hnil)
    simp [endsTogether, hle, List.length_drop]

/-- A read with room for all that is left changes nothing about it. -/
theorem endsTogether_read (r : Source) {n : Nat} (hn : r.rest.length = n) (hne : r.rest ≠ [])
    (err : Option ReadError) :
    (r.read n).2.2.endsTogether (r.read n).2.1 = r.endsTogether err := by
  have hnow : r.endsTogether err = lastTogether r.rest.length r.pieces := if_neg hne
  rw [hnow]
  unfold read
  split
  · next hpieces =>
      rw [endsTogether_deliver r hne, if_pos (Nat.le_of_eq hn), hpieces]
      rfl
  · next more together pieces hpieces =>
      rw [endsTogether_deliver r hne, hpieces, lastTogether]
      by_cases hle : r.rest.length ≤ more + 1
      · rw [if_pos (by omega), if_pos hle]
      · rw [if_neg (by omega), if_neg hle, Nat.min_eq_right (by omega)]
  · next idle more together pieces hpieces =>
      rw [endsTogether, if_neg hne, hpieces]
      rfl

end Source

/-! ### The buffer -/

/-- A `bufio.Reader`: the size of the buffer, the bytes in it that were not yet read, and the
    pending error. -/
structure Reader where
  size : Nat
  buffer : ByteString
  err : Option ReadError
  source : Source
deriving DecidableEq, Repr

def minReadBufferSize : Int := 16

def newReaderSize (source : Source) (size : Int) : Reader :=
  ⟨(max size minReadBufferSize).toNat, [], none, source⟩

def newReader (source : Source) : Reader := newReaderSize source 4096

theorem size_newReader (source : Source) : (newReader source).size = 4096 := rfl

/-- `ReadSlice` fails as the reader does, or because the buffer is full. -/
inductive SliceError where
  | bufferFull
  | read (e : ReadError)
deriving DecidableEq, Repr

namespace Reader

/-- All that is still to come. -/
def remaining (b : Reader) : ByteString := b.buffer ++ b.source.rest

/-- Copying from the buffer, the end of `Read`. -/
def copy (b : Reader) (n : Nat) : (ByteString × Option ReadError) × Reader :=
  ((b.buffer.take n, none), { b with buffer := b.buffer.drop n })

/-- `Read` into `n` bytes.  With an empty buffer there is one read of the source, into the
    buffer or, where that is not larger, into the bytes themselves. -/
def read (b : Reader) (n : Nat) : (ByteString × Option ReadError) × Reader :=
  if n = 0 then
    if b.buffer ≠ [] then (([], none), b) else (([], b.err), { b with err := none })
  else if b.buffer ≠ [] then b.copy n
  else
    match b.err with
    | some e => (([], some e), { b with err := none })
    | none =>
        if b.size ≤ n then
          match b.source.read n with
          | (bytes, err, source) => ((bytes, err), { b with source := source })
        else
          match b.source.read b.size with
          | ([], err, source) => (([], err), { b with source := source })
          | (bytes, err, source) =>
              copy { b with buffer := bytes, err := err, source := source } n

/-- The loop of `fill`, with so many tries left. -/
def fill (b : Reader) : Nat → Reader
  | 0 => { b with err := some .noProgress }
  | tries + 1 =>
      match b.source.read (b.size - b.buffer.length) with
      | (bytes, err, source) =>
          let b' := { b with buffer := b.buffer ++ bytes, err := err, source := source }
          if err.isSome || !bytes.isEmpty then b' else b'.fill tries

/-- The loop of `ReadSlice`.  Each round but the last one adds to the buffer or finds an error,
    so that the fuel of `readLine` is enough. -/
def readSlice (delim : UInt8) : Nat → Reader → (ByteString × Option SliceError) × Reader
  | 0, b => (([], none), b)
  | fuel + 1, b =>
      if b.buffer.contains delim then
        let line := b.buffer.takeWhile (· ≠ delim) ++ [delim]
        ((line, none), { b with buffer := b.buffer.drop line.length })
      else
        match b.err with
        | some e => ((b.buffer, some (.read e)), { b with buffer := [], err := none })
        | none =>
            if b.size ≤ b.buffer.length then
              ((b.buffer, some .bufferFull), { b with buffer := [] })
            else readSlice delim fuel (b.fill maxConsecutiveEmptyReads)

/-- What `ReadLine` returns: the line or a part of it, whether it is such a part, and the
    error. -/
structure ReadLine where
  line : ByteString
  isPrefix : Bool
  err : Option ReadError
deriving DecidableEq, Repr

def readLine (b : Reader) : ReadLine × Reader :=
  match readSlice newline (b.size + 2) b with
  | ((line, some .bufferFull), b') =>
      -- the carriage return may belong to the line end
      if line.getLast? = some 13 then
        (⟨line.dropLast, true, none⟩, { b' with buffer := 13 :: b'.buffer })
      else (⟨line, true, none⟩, b')
  | ((line, some (.read e)), b') =>
      if line = [] then (⟨[], false, some e⟩, b') else (⟨line, false, none⟩, b')
  | ((line, none), b') => (⟨dropCR line.dropLast, false, none⟩, b')

/-! ### What the methods return -/

/-- The buffer holds what is in it, and an error is only pending at the end of the stream. -/
structure Sound (b : Reader) : Prop where
  fits : b.buffer.length ≤ b.size
  err : ∀ e, b.err = some e → e = b.source.last ∧ b.source.rest = []

theorem sound_newReaderSize (source : Source) (size : Int) : (newReaderSize source size).Sound where
  fits := Nat.zero_le _
  err := by
    intro e he
    cases he

/-- `Read` returns the next bytes, at most `n`, and an error only at the end. -/
structure Reads (b : Reader) (n : Nat) (x : (ByteString × Option ReadError) × Reader) : Prop where
  remaining : x.1.1 ++ x.2.remaining = b.remaining
  length : x.1.1.length ≤ n
  err : ∀ e, x.1.2 = some e → x.2.remaining = []
  sound : x.2.Sound
  size : x.2.size = b.size

theorem Sound.reads_copy {b : Reader} (h : b.Sound) (n : Nat) : Reads b n (b.copy n) where
  remaining := by
    unfold copy remaining
    rw [← List.append_assoc, List.take_append_drop]
  length := List.length_take_le n b.buffer
  err := by
    intro e he
    cases he
  sound := by
    refine ⟨?_, h.err⟩
    have hfits := h.fits
    have hdrop := List.length_drop (i := n) (l := b.buffer)
    show (b.buffer.drop n).length ≤ b.size
    omega
  size := rfl

/-- With an empty buffer: what the source returns, unbuffered. -/
theorem Sound.reads_source {b : Reader} (h : b.Sound) (hbuffer : b.buffer = [])
    (hnone : b.err = none) {n : Nat} {bytes : ByteString} {err : Option ReadError}
    {source : Source} (hrest : bytes ++ source.rest = b.source.rest) (hle : bytes.length ≤ n)
    (herr : ∀ e, err = some e → source.rest = []) :
    Reads b n ((bytes, err), { b with source := source }) where
  remaining := by
    unfold remaining
    rw [hbuffer, List.nil_append, List.nil_append]
    exact hrest
  length := hle
  err := by
    intro e he
    unfold remaining
    rw [hbuffer, List.nil_append]
    exact herr e he
  sound := by
    refine ⟨h.fits, ?_⟩
    intro e he
    cases hnone.symm.trans he
  size := rfl

theorem Sound.reads_read {b : Reader} (h : b.Sound) {n : Nat} (hn : 0 < n) (hsize : 0 < b.size) :
    Reads b n (b.read n) := by
  unfold read
  rw [if_neg (by omega)]
  split
  · exact h.reads_copy n
  · next hbuffer =>
      rw [not_not] at hbuffer
      split
      · next e he =>
          refine ⟨rfl, Nat.zero_le n, ?_, ⟨h.fits, ?_⟩, rfl⟩
          · intro _ _
            unfold remaining
            rw [hbuffer]
            exact (h.err e he).2
          · intro e he
            cases he
      · next hnone =>
          split
          · obtain ⟨hrest, hle, hlast, herr⟩ := b.source.read_rest hn
            generalize b.source.read n = x at hrest hle hlast herr
            exact h.reads_source hbuffer hnone hrest hle fun e he => (herr e he).2
          · obtain ⟨hrest, hle, hlast, herr⟩ := b.source.read_rest hsize
            generalize b.source.read b.size = x at hrest hle hlast herr
            obtain ⟨bytes, err, source⟩ := x
            cases bytes with
            | nil =>
                exact h.reads_source hbuffer hnone hrest (Nat.zero_le n) fun e he => (herr e he).2
            | cons c bytes =>
                have hcopy := Sound.reads_copy
                  (b := { b with buffer := c :: bytes, err := err, source := source })
                  ⟨hle, fun e he => ⟨(herr e he).1.trans hlast.symm, (herr e he).2⟩⟩ n
                refine ⟨?_, hcopy.length, hcopy.err, hcopy.sound, hcopy.size⟩
                rw [hcopy.remaining]
                unfold remaining
                rw [hbuffer]
                exact hrest

/-! ### Lines -/

/-- What an operation on a reader that makes progress leaves: `bufio` has not given up on it. -/
structure Follows (b b' : Reader) : Prop where
  sound : b'.Sound
  lively : b'.source.Lively
  size : b'.size = b.size
  last : b'.source.last = b.source.last

theorem Follows.trans {b b' b'' : Reader} (h : Follows b b') (h' : Follows b' b'') :
    Follows b b'' :=
  ⟨h'.sound, h'.lively, h'.size.trans h.size, h'.last.trans h.last⟩

theorem fill_succ {b : Reader} {bytes : ByteString} {err : Option ReadError} {source : Source}
    (h : b.source.read (b.size - b.buffer.length) = (bytes, err, source)) (tries : Nat) :
    b.fill (tries + 1) =
      if err.isSome || !bytes.isEmpty then
        { b with buffer := b.buffer ++ bytes, err := err, source := source }
      else fill { b with buffer := b.buffer ++ bytes, err := err, source := source } tries := by
  rw [fill, h]

/-- `fill` adds to the buffer, or it finds the end. -/
theorem follows_fill {b : Reader} (hlively : b.source.Lively) (hroom : b.buffer.length < b.size)
    {tries : Nat} (htries : b.source.idle < tries) :
    Follows b (b.fill tries) ∧ (b.fill tries).remaining = b.remaining ∧
      ((b.fill tries).err = none → b.buffer.length < (b.fill tries).buffer.length) := by
  induction tries generalizing b with
  | zero => omega
  | succ tries ih =>
      have hread := hlively.read (b.size - b.buffer.length)
      rcases b.source.read_cases (n := b.size - b.buffer.length) (by omega) with
        ⟨source, hidle, hrest, hlast, hless⟩ | hdelivered
      · have hfill : b.fill (tries + 1) = fill { b with err := none, source := source } tries := by
          rw [fill_succ hidle, List.append_nil]
          rfl
        rw [hidle] at hread
        rw [hfill]
        obtain ⟨hfollows, hremaining, hgrows⟩ :=
          ih (b := { b with err := none, source := source }) hread hroom
            (by dsimp only; omega)
        refine ⟨⟨hfollows.sound, hfollows.lively, hfollows.size, hfollows.last.trans hlast⟩,
          hremaining.trans ?_, hgrows⟩
        unfold remaining
        rw [hrest]
      · generalize hx : b.source.read (b.size - b.buffer.length) = x at hread hdelivered
        cases hdelivered with
        | @ended source hrest hrest' hlast =>
            have hfill : b.fill (tries + 1) =
                { b with err := some b.source.last, source := source } := by
              rw [fill_succ hx, List.append_nil]
              rfl
            rw [hfill]
            refine ⟨⟨⟨Nat.le_of_lt hroom, ?_⟩, hread, rfl, hlast⟩, ?_, ?_⟩
            · intro e he
              cases he
              exact ⟨hlast.symm, hrest'⟩
            · unfold remaining
              rw [hrest', hrest]
            · intro hnone
              cases hnone
        | @data bytes err source hne hle hrest hlast herr =>
            have hcond : (err.isSome || !bytes.isEmpty) = true := by simp [hne]
            have hlength : (b.buffer ++ bytes).length = b.buffer.length + bytes.length :=
              List.length_append
            have hpos : 0 < bytes.length := List.length_pos_iff.mpr hne
            rw [fill_succ hx, if_pos hcond]
            refine ⟨⟨⟨?_, ?_⟩, hread, rfl, hlast⟩, ?_, ?_⟩
            · dsimp only
              omega
            · intro e he
              exact ⟨(herr e he).1.trans hlast.symm, (herr e he).2⟩
            · unfold remaining
              rw [List.append_assoc, hrest]
            · intro _
              dsimp only
              omega

/-- How `ReadSlice` ends. -/
inductive Sliced (delim : UInt8) (b : Reader) :
    (ByteString × Option SliceError) × Reader → Prop where
  | found {line : ByteString} {b' : Reader} (hline : delim ∉ line)
      (hremaining : b.remaining = line ++ delim :: b'.remaining) :
      Sliced delim b ((line ++ [delim], none), b')
  | full {line : ByteString} {b' : Reader} (hline : delim ∉ line) (hlength : line.length = b.size)
      (hremaining : b.remaining = line ++ b'.remaining) (hbuffer : b'.buffer = [])
      (herr : b'.err = none) : Sliced delim b ((line, some .bufferFull), b')
  | ended {line : ByteString} {b' : Reader} (hline : delim ∉ line)
      (hremaining : b.remaining = line) (hremaining' : b'.remaining = []) :
      Sliced delim b ((line, some (.read b.source.last)), b')

theorem Sliced.of_remaining {delim : UInt8} {b b' : Reader}
    {x : (ByteString × Option SliceError) × Reader} (hremaining : b'.remaining = b.remaining)
    (hsize : b'.size = b.size) (hlast : b'.source.last = b.source.last) (h : Sliced delim b' x) :
    Sliced delim b x := by
  cases h with
  | found hline h => exact .found hline (hremaining.symm.trans h)
  | full hline hlength h hbuffer herr =>
      exact .full hline (hlength.trans hsize) (hremaining.symm.trans h) hbuffer herr
  | ended hline h h' =>
      rw [hlast]
      exact .ended hline (hremaining.symm.trans h) h'

/-- A byte string with a delimiter in it, cut after the first one. -/
theorem eq_takeWhile_append_cons {delim : UInt8} {s : ByteString} (h : delim ∈ s) :
    s = s.takeWhile (· ≠ delim) ++ delim :: s.drop ((s.takeWhile (· ≠ delim)).length + 1) := by
  induction s with
  | nil => cases h
  | cons c s ih =>
      by_cases hc : c = delim
      · simp [hc]
      · have htail : delim ∈ s := (List.mem_cons.mp h).resolve_left fun heq => hc heq.symm
        have hcut := ih htail
        simpa [hc] using hcut

theorem sliced_readSlice (delim : UInt8) {b : Reader} (hb : b.Sound) (hlively : b.source.Lively)
    {fuel : Nat} (hpos : 0 < fuel) (hfuel : b.err = none → b.size - b.buffer.length < fuel) :
    Follows b (readSlice delim fuel b).2 ∧ Sliced delim b (readSlice delim fuel b) := by
  induction fuel generalizing b with
  | zero => omega
  | succ fuel ih =>
      unfold readSlice
      split
      · next hmem =>
          have hcut := eq_takeWhile_append_cons (List.contains_iff_mem.mp hmem)
          have hdrop := List.length_drop (i := (b.buffer.takeWhile (· ≠ delim) ++ [delim]).length)
            (l := b.buffer)
          have hfits := hb.fits
          refine ⟨⟨⟨?_, hb.err⟩, hlively, rfl, rfl⟩, .found ?_ ?_⟩
          · dsimp only
            omega
          · intro hin
            simpa using List.all_eq_true.mp List.all_takeWhile delim hin
          · unfold remaining
            dsimp only
            rw [List.length_append, List.length_singleton]
            conv_lhs => rw [hcut]
            rw [List.append_assoc, List.cons_append]
      · next hmem =>
          have hnot : delim ∉ b.buffer := by simpa using hmem
          split
          · next e he =>
              obtain ⟨rfl, hrest⟩ := hb.err e he
              refine ⟨⟨⟨Nat.zero_le _, ?_⟩, hlively, rfl, rfl⟩, .ended hnot ?_ ?_⟩
              · intro e he
                cases he
              · unfold remaining
                rw [hrest, List.append_nil]
              · exact hrest
          · next hnone =>
              split
              · next hfull =>
                  exact ⟨⟨⟨Nat.zero_le _, hb.err⟩, hlively, rfl, rfl⟩,
                    .full hnot (Nat.le_antisymm hb.fits hfull) rfl rfl hnone⟩
              · next hroom =>
                  have hlt := hfuel hnone
                  obtain ⟨hfollows, hremaining, hgrows⟩ :=
                    follows_fill hlively (Nat.lt_of_not_le hroom) hlively.idle_lt
                  have hfuel' : (b.fill maxConsecutiveEmptyReads).err = none →
                      (b.fill maxConsecutiveEmptyReads).size -
                        (b.fill maxConsecutiveEmptyReads).buffer.length < fuel := by
                    intro hnone'
                    have hmore := hgrows hnone'
                    have hsize := hfollows.size
                    omega
                  obtain ⟨hfollows', hsliced⟩ :=
                    ih hfollows.sound hfollows.lively (by omega) hfuel'
                  exact ⟨hfollows.trans hfollows',
                    hsliced.of_remaining hremaining hfollows.size hfollows.last⟩

/-- How `ReadLine` ends: with a line, with a part of a line that does not fit into the buffer,
    with the last line where the stream does not end it, or with the error.  A part does not end
    between the two bytes of a line end. -/
inductive Lined (b : Reader) : ReadLine × Reader → Prop where
  | line {line : ByteString} {b' : Reader} (hline : newline ∉ line)
      (hremaining : b.remaining = line ++ newline :: b'.remaining) :
      Lined b (⟨dropCR line, false, none⟩, b')
  | part {line : ByteString} {b' : Reader} (hne : line ≠ []) (hline : newline ∉ line)
      (hremaining : b.remaining = line ++ b'.remaining)
      (hcut : line.getLast? = some 13 → b'.remaining.head? = some 13) :
      Lined b (⟨line, true, none⟩, b')
  | last {line : ByteString} {b' : Reader} (hne : line ≠ []) (hline : newline ∉ line)
      (hremaining : b.remaining = line) (hremaining' : b'.remaining = []) :
      Lined b (⟨line, false, none⟩, b')
  | ended {b' : Reader} (hremaining : b.remaining = []) (hremaining' : b'.remaining = []) :
      Lined b (⟨[], false, some b.source.last⟩, b')

theorem lined_readLine {b : Reader} (hb : b.Sound) (hlively : b.source.Lively)
    (hsize : 1 < b.size) : Follows b b.readLine.2 ∧ Lined b b.readLine := by
  obtain ⟨hfollows, hsliced⟩ :=
    sliced_readSlice newline hb hlively (Nat.succ_pos (b.size + 1)) fun _ => by omega
  unfold readLine
  generalize readSlice newline (b.size + 2) b = x at hfollows hsliced
  cases hsliced with
  | @found line b' hline hremaining =>
      refine ⟨hfollows, ?_⟩
      dsimp only
      rw [List.dropLast_concat]
      exact .line hline hremaining
  | @full line b' hline hlength hremaining hbuffer herr =>
      dsimp only at hfollows ⊢
      split
      · next hcr =>
          -- the carriage return goes back, so that the next call sees it again
          have hconcat : line = line.dropLast ++ [13] :=
            (List.dropLast_append_getLast? 13 hcr).symm
          have hlength' : line.dropLast.length + 1 = b.size := by
            rw [← hlength, List.length_dropLast]
            omega
          refine ⟨⟨⟨?_, hfollows.sound.err⟩, hfollows.lively, hfollows.size, hfollows.last⟩,
            .part ?_ ?_ ?_ ?_⟩
          · have hsize' := hfollows.size
            show (13 :: b'.buffer).length ≤ b'.size
            rw [hbuffer, List.length_singleton]
            omega
          · intro hnil
            rw [hnil, List.length_nil] at hlength'
            omega
          · intro hmem
            exact hline (List.dropLast_subset line hmem)
          · rw [hremaining]
            conv_lhs => rw [hconcat]
            rw [List.append_assoc]
            rfl
          · intro _
            rfl
      · next hcr =>
          refine ⟨hfollows, .part ?_ hline hremaining fun h => absurd h hcr⟩
          intro hnil
          rw [hnil, List.length_nil] at hlength
          omega
  | @ended line b' hline hremaining hremaining' =>
      dsimp only at hfollows ⊢
      split
      · next hnil =>
          rw [hnil] at hremaining
          exact ⟨hfollows, .ended hremaining hremaining'⟩
      · next hne => exact ⟨hfollows, .last hne hline hremaining hremaining'⟩

/-! ### Which lines fit -/

/-- What `ReadSlice` returns has been in the buffer. -/
theorem length_readSlice_le (delim : UInt8) {b : Reader} (hb : b.Sound)
    (hlively : b.source.Lively) (fuel : Nat) : (readSlice delim fuel b).1.1.length ≤ b.size := by
  induction fuel generalizing b with
  | zero => exact Nat.zero_le _
  | succ fuel ih =>
      have hfits := hb.fits
      unfold readSlice
      split
      · next hmem =>
          have hcut := congrArg List.length
            (eq_takeWhile_append_cons (List.contains_iff_mem.mp hmem))
          rw [List.length_append, List.length_cons] at hcut
          dsimp only
          rw [List.length_append, List.length_singleton]
          omega
      · split
        · exact hfits
        · split
          · exact hfits
          · next hroom =>
              obtain ⟨hfollows, -, -⟩ :=
                follows_fill hlively (Nat.lt_of_not_le hroom) hlively.idle_lt
              have hle := ih hfollows.sound hfollows.lively
              rw [hfollows.size] at hle
              exact hle

/-- `ReadLine` calls `ReadSlice` with enough fuel. -/
theorem sliced_readLine {b : Reader} (hb : b.Sound) (hlively : b.source.Lively) :
    Sliced newline b (readSlice newline (b.size + 2) b) :=
  (sliced_readSlice newline hb hlively (Nat.succ_pos (b.size + 1)) fun _ => by omega).2

/-- A line is read in parts only if it fills the buffer. -/
theorem size_le_of_part {b b' : Reader} (hb : b.Sound) (hlively : b.source.Lively)
    {line : ByteString} (h : b.readLine = (⟨line, true, none⟩, b')) :
    ∃ part rest, newline ∉ part ∧ part.length = b.size ∧ b.remaining = part ++ rest := by
  have hsliced := sliced_readLine hb hlively
  unfold readLine at h
  generalize readSlice newline (b.size + 2) b = x at hsliced h
  cases hsliced with
  | found hline hremaining => cases h
  | full hline hlength hremaining hbuffer herr => exact ⟨_, _, hline, hlength, hremaining⟩
  | ended hline hremaining hremaining' =>
      dsimp only at h
      split at h <;> cases h

/-- A line that is read whole fits into the buffer, with its end. -/
theorem length_lt_of_readLine {b b' : Reader} (hb : b.Sound) (hlively : b.source.Lively)
    {line raw rest : ByteString} (h : b.readLine = (⟨line, false, none⟩, b'))
    (hraw : newline ∉ raw) (hremaining : b.remaining = raw ++ newline :: rest) :
    raw.length < b.size := by
  have hsliced := sliced_readLine hb hlively
  have hlength := length_readSlice_le newline hb hlively (b.size + 2)
  unfold readLine at h
  generalize readSlice newline (b.size + 2) b = x at hsliced hlength h
  cases hsliced with
  | found hline hremaining' =>
      obtain ⟨rfl, -⟩ := append_newline_inj hraw hline (hremaining.symm.trans hremaining')
      rw [List.length_append, List.length_singleton] at hlength
      exact hlength
  | full hline hfull hremaining' hbuffer herr =>
      dsimp only at h
      split at h <;> cases h
  | ended hline hremaining' hended =>
      rw [← hremaining', hremaining] at hline
      exact absurd (List.mem_append_right raw List.mem_cons_self) hline

/-! ### A last line that just fills the buffer -/

/-- Whether the error is there when the buffer is full, where it has just room for what is left of
    the stream. -/
def endsTogether (b : Reader) : Bool := b.source.endsTogether b.err

theorem endsTogether_fill {b : Reader} (hexact : b.source.rest.length = b.size - b.buffer.length)
    (hne : b.source.rest ≠ []) {tries : Nat} (htries : b.source.idle < tries) :
    (b.fill tries).endsTogether = b.endsTogether := by
  induction tries generalizing b with
  | zero => omega
  | succ tries ih =>
      have hpos := List.length_pos_iff.mpr hne
      have hread := b.source.endsTogether_read hexact hne b.err
      rcases b.source.read_cases (n := b.size - b.buffer.length) (by omega) with
        ⟨source, hidle, hrest, -, hless⟩ | hdelivered
      · rw [hidle] at hread
        rw [fill_succ hidle, List.append_nil]
        have hsame := ih (b := { b with err := none, source := source })
          (by rw [hrest]; exact hexact) (by rw [hrest]; exact hne) (by dsimp only; omega)
        exact hsame.trans hread
      · generalize hx : b.source.read (b.size - b.buffer.length) = x at hread hdelivered
        cases hdelivered with
        | ended hrest hrest' hlast => exact absurd hrest hne
        | data hbytes hle hrest hlast herr =>
            rw [fill_succ hx, if_pos (by simp [hbytes])]
            exact hread

/-- A last line without an end that just fills the buffer is returned as it is where the error
    comes together with its last bytes, and else as a part. -/
theorem readSlice_of_exact (delim : UInt8) {b : Reader} (hb : b.Sound)
    (hlively : b.source.Lively) (hnot : delim ∉ b.remaining)
    (hexact : b.remaining.length = b.size) {fuel : Nat} (hpos : 0 < fuel)
    (hfuel : b.err = none → b.size - b.buffer.length < fuel) :
    (readSlice delim fuel b).1.2 =
      some (if b.endsTogether then .read b.source.last else .bufferFull) := by
  induction fuel generalizing b with
  | zero => omega
  | succ fuel ih =>
      have hbuffer : ¬b.buffer.contains delim = true := by
        intro hmem
        exact hnot (List.mem_append_left _ (List.contains_iff_mem.mp hmem))
      unfold readSlice
      rw [if_neg hbuffer]
      cases herr : b.err with
      | some e =>
          obtain ⟨rfl, hrest⟩ := hb.err e herr
          simp [endsTogether, Source.endsTogether, hrest, herr]
      | none =>
          dsimp only
          by_cases hfull : b.size ≤ b.buffer.length
          · have hrest : b.source.rest = [] := by
              rw [remaining, List.length_append] at hexact
              exact List.eq_nil_of_length_eq_zero (by omega)
            rw [if_pos hfull]
            simp [endsTogether, Source.endsTogether, hrest, herr]
          · have hroom := Nat.lt_of_not_le hfull
            have hlt := hfuel herr
            have hleft : b.source.rest.length = b.size - b.buffer.length := by
              rw [remaining, List.length_append] at hexact
              omega
            have hne : b.source.rest ≠ [] := List.length_pos_iff.mp (by omega)
            obtain ⟨hfollows, hremaining, hgrows⟩ :=
              follows_fill hlively hroom hlively.idle_lt
            rw [if_neg hfull, ih hfollows.sound hfollows.lively (hremaining ▸ hnot)
              (by rw [hremaining, hexact, hfollows.size]) (by omega),
              endsTogether_fill hleft hne hlively.idle_lt, hfollows.last]
            intro hnone
            have hmore := hgrows hnone
            have hsize := hfollows.size
            omega

theorem isPrefix_readLine_of_exact {b : Reader} (hb : b.Sound) (hlively : b.source.Lively)
    (hnot : newline ∉ b.remaining) (hexact : b.remaining.length = b.size) :
    b.readLine.1.isPrefix = !b.endsTogether := by
  have hslice := readSlice_of_exact newline hb hlively hnot hexact
    (Nat.succ_pos (b.size + 1)) fun _ => by omega
  unfold readLine
  generalize readSlice newline (b.size + 2) b = x at hslice
  obtain ⟨⟨line, err⟩, b'⟩ := x
  dsimp only at hslice
  subst hslice
  cases b.endsTogether with
  | true =>
      rw [if_pos rfl]
      dsimp only
      split <;> rfl
  | false =>
      rw [if_neg Bool.false_ne_true]
      dsimp only
      split <;> rfl

/-- A last line without an end that is read whole has been in the buffer. -/
theorem length_le_of_readLine {b b' : Reader} (hb : b.Sound) (hlively : b.source.Lively)
    {line : ByteString} (h : b.readLine = (⟨line, false, none⟩, b'))
    (hnot : newline ∉ b.remaining) : b.remaining.length ≤ b.size := by
  have hsliced := sliced_readLine hb hlively
  have hlength := length_readSlice_le newline hb hlively (b.size + 2)
  unfold readLine at h
  generalize readSlice newline (b.size + 2) b = x at hsliced hlength h
  cases hsliced with
  | found hline hremaining =>
      rw [hremaining] at hnot
      exact absurd (List.mem_append_right _ List.mem_cons_self) hnot
  | full hline hfull hremaining hbuffer herr =>
      dsimp only at h
      split at h <;> cases h
  | ended hline hremaining hended =>
      rw [hremaining]
      exact hlength

/-! ### Line after line -/

/-- The reader after so many calls of `ReadLine`. -/
def afterLines (b : Reader) : Nat → Reader
  | 0 => b
  | n + 1 => b.readLine.2.afterLines n

theorem afterLines_add (b : Reader) (n m : Nat) :
    b.afterLines (n + m) = (b.afterLines n).afterLines m := by
  induction n generalizing b with
  | zero => rw [Nat.zero_add, afterLines]
  | succ n ih => rw [Nat.add_right_comm, afterLines, ih, afterLines]

/-- A call leaves less to come. -/
theorem Lined.length_lt {b : Reader} {x : ReadLine × Reader} (h : Lined b x)
    (hne : b.remaining ≠ []) : x.2.remaining.length < b.remaining.length := by
  cases h with
  | line hline hremaining =>
      rw [hremaining, List.length_append, List.length_cons]
      dsimp only
      omega
  | part hpiece hline hremaining hcut =>
      have hpos := List.length_pos_iff.mpr hpiece
      rw [hremaining, List.length_append]
      dsimp only
      omega
  | last hpiece hline hremaining hremaining' =>
      rw [hremaining']
      exact List.length_pos_iff.mpr hne
  | ended hremaining hremaining' => exact absurd hremaining hne

theorem Lined.remaining_eq_nil {b : Reader} {x : ReadLine × Reader} (h : Lined b x)
    (hnil : b.remaining = []) : x.2.remaining = [] := by
  cases h with
  | line hline hremaining => exact absurd (hremaining.symm.trans hnil) (by simp)
  | part hpiece hline hremaining hcut =>
      exact (List.append_eq_nil_iff.mp (hremaining.symm.trans hnil)).2
  | last hpiece hline hremaining hremaining' => exact hremaining'
  | ended hremaining hremaining' => exact hremaining'

theorem length_afterLines {b : Reader} (hb : b.Sound) (hlively : b.source.Lively)
    (hsize : 1 < b.size) (n : Nat) :
    (b.afterLines n).remaining = [] ∨
      (b.afterLines n).remaining.length + n ≤ b.remaining.length := by
  induction n generalizing b with
  | zero => exact Or.inr (Nat.le_refl _)
  | succ n ih =>
      obtain ⟨hfollows, hlined⟩ := lined_readLine hb hlively hsize
      have hrest := ih hfollows.sound hfollows.lively (by rw [hfollows.size]; exact hsize)
      rw [afterLines]
      by_cases hnil : b.remaining = []
      · left
        rcases hrest with hrest | hrest
        · exact hrest
        · rw [hlined.remaining_eq_nil hnil, List.length_nil] at hrest
          exact List.eq_nil_of_length_eq_zero (by omega)
      · have hless := hlined.length_lt hnil
        exact hrest.imp_right fun hle => by omega

theorem follows_afterLines {b : Reader} (hb : b.Sound) (hlively : b.source.Lively)
    (hsize : 1 < b.size) (n : Nat) : Follows b (b.afterLines n) := by
  induction n generalizing b with
  | zero => exact ⟨hb, hlively, rfl, rfl⟩
  | succ n ih =>
      obtain ⟨hfollows, -⟩ := lined_readLine hb hlively hsize
      exact hfollows.trans (ih hfollows.sound hfollows.lively (by rw [hfollows.size]; exact hsize))

/-- What is left of the stream tells how often `ReadLine` was called. -/
theorem afterLines_inj {b : Reader} (hb : b.Sound) (hlively : b.source.Lively)
    (hsize : 1 < b.size) {n m : Nat}
    (hsame : (b.afterLines n).remaining = (b.afterLines m).remaining)
    (hne : (b.afterLines n).remaining ≠ []) : n = m := by
  have hlt : ∀ {i j : Nat}, i < j → (b.afterLines i).remaining ≠ [] →
      (b.afterLines i).remaining ≠ (b.afterLines j).remaining := by
    intro i j hij hi heq
    obtain ⟨k, rfl⟩ := Nat.exists_eq_add_of_le (Nat.le_of_lt hij)
    have hfollows := follows_afterLines hb hlively hsize i
    rw [afterLines_add] at heq
    rcases length_afterLines hfollows.sound hfollows.lively
      (by rw [hfollows.size]; exact hsize) k with hnil | hle
    · exact hi (heq.trans hnil)
    · rw [← heq] at hle
      omega
  rcases Nat.lt_trichotomy n m with hnm | hnm | hnm
  · exact absurd hsame (hlt hnm hne)
  · exact hnm
  · exact absurd hsame.symm (hlt hnm (hsame ▸ hne))

end Reader

end Bufio
