import GoPlugin.BufioReader

/-!
# `bufio.Scanner`

A scanner that splits a stream into lines.  Its buffer grows with the line that is being read, up
to a limit: a line that does not fit stops the scanner for good, with the rest of the stream
unread.
-/

namespace Bufio

open ByteString

/-- A scanner stops because of its reader, or because a line is too long. -/
inductive ScanError where
  | read (e : ReadError)
  | tooLong
deriving DecidableEq, Repr

/-- A `bufio.Scanner`: the length of the buffer, where the bytes in it begin, and these bytes. -/
structure Scanner where
  maxTokenSize : Nat
  size : Nat
  start : Nat
  data : ByteString
  err : Option ScanError
  source : Source
deriving DecidableEq, Repr

def startBufSize : Nat := 4096

def newScanner (source : Source) : Scanner := ⟨maxScanTokenSize, 0, 0, [], none, source⟩

/-- `bufio.ScanLines`: how far to advance, and the token. -/
def scanLines (data : ByteString) (atEOF : Bool) : Nat × Option ByteString :=
  if atEOF ∧ data = [] then (0, none)
  else if data.contains newline then
    let line := data.takeWhile (· ≠ newline)
    (line.length + 1, some (dropCR line))
  else if atEOF then (data.length, some (dropCR data))
  else (0, none)

namespace Scanner

def setErr (s : Scanner) (e : ScanError) : Scanner :=
  if s.err = none ∨ s.err = some (.read .eof) then { s with err := some e } else s

/-- A token from what is in the buffer.  A token of `scanLines` always advances, so that there are
    no empty tokens to be counted. -/
def token (s : Scanner) : Option ByteString × Scanner :=
  if s.data ≠ [] ∨ s.err.isSome then
    let (advance, token) := scanLines s.data s.err.isSome
    (token, { s with start := s.start + advance, data := s.data.drop advance })
  else (none, s)

/-- Move the bytes to the front of the buffer if that is worth it. -/
def shift (s : Scanner) : Scanner :=
  if 0 < s.start ∧ (s.start + s.data.length = s.size ∨ s.size / 2 < s.start) then
    { s with start := 0 }
  else s

/-- A larger buffer. -/
def grow (s : Scanner) : Scanner :=
  let newSize := if s.size * 2 = 0 then startBufSize else s.size * 2
  { s with size := min newSize s.maxTokenSize, start := 0 }

/-- The reads, with so many tries left. -/
def fill (s : Scanner) : Nat → Scanner
  | 0 => s.setErr (.read .noProgress)
  | tries + 1 =>
      match s.source.read (s.size - (s.start + s.data.length)) with
      | (bytes, err, source) =>
          let s' := { s with data := s.data ++ bytes, source := source }
          match err with
          | some e => s'.setErr (.read e)
          | none => if bytes ≠ [] then s' else s'.fill tries

/-- The loop of `Scan`.  Each round without a result adds to the buffer or finds an error, so that
    the fuel of `scan` is enough. -/
def scanFrom : Nat → Scanner → Option ByteString × Scanner
  | 0, s => (none, s)
  | fuel + 1, s =>
      match s.token with
      | (some t, s) => (some t, s)
      | (none, s) =>
          if s.err.isSome then (none, { s with start := 0, data := [] })
          else
            let s := s.shift
            if s.start + s.data.length = s.size then
              if s.maxTokenSize ≤ s.size then (none, s.setErr .tooLong)
              else scanFrom fuel (s.grow.fill (maxConsecutiveEmptyReads + 1))
            else scanFrom fuel (s.fill (maxConsecutiveEmptyReads + 1))

/-- `Scan` and `Text`; there is no token where `Scan` returns false. -/
def scan (s : Scanner) : Option ByteString × Scanner := scanFrom (s.maxTokenSize + 2) s

/-- All that is still to come. -/
def remaining (s : Scanner) : ByteString := s.data ++ s.source.rest

/-! ### What the parts do -/

/-- The bytes are in the buffer, and an error is only pending at the end of the stream. -/
structure Sound (s : Scanner) : Prop where
  fits : s.start + s.data.length ≤ s.size
  size : s.size ≤ s.maxTokenSize
  err : ∀ e, s.err = some e → e = .read s.source.last ∧ s.source.rest = []
  lively : s.source.Lively

theorem sound_newScanner {source : Source} (h : source.Lively) : (newScanner source).Sound where
  fits := Nat.le_refl 0
  size := Nat.zero_le _
  err := by
    intro e he
    cases he
  lively := h

/-- What an operation on a sound scanner leaves, where the scanner can go on. -/
structure Follows (s s' : Scanner) : Prop where
  sound : s'.Sound
  maxTokenSize : s'.maxTokenSize = s.maxTokenSize
  last : s'.source.last = s.source.last

theorem Follows.trans {s s' s'' : Scanner} (h : Follows s s') (h' : Follows s' s'') :
    Follows s s'' :=
  ⟨h'.sound, h'.maxTokenSize.trans h.maxTokenSize, h'.last.trans h.last⟩

/-- A line that is in the buffer is the token. -/
theorem token_of_mem {s : Scanner} (h : newline ∈ s.data) :
    s.token = (some (dropCR (s.data.takeWhile (· ≠ newline))),
      { s with
        start := s.start + ((s.data.takeWhile (· ≠ newline)).length + 1)
        data := s.data.drop ((s.data.takeWhile (· ≠ newline)).length + 1) }) := by
  have hne : s.data ≠ [] := List.ne_nil_of_mem h
  rw [token, if_pos (Or.inl hne), scanLines, if_neg fun hnil => hne hnil.2,
    if_pos (List.contains_iff_mem.mpr h)]

/-- What is left at the end is the last token. -/
theorem token_of_err {s : Scanner} (h : newline ∉ s.data) (hne : s.data ≠ [])
    (herr : s.err.isSome = true) :
    s.token = (some (dropCR s.data),
      { s with start := s.start + s.data.length, data := [] }) := by
  have hnot : ¬s.data.contains newline = true := fun hmem => h (List.contains_iff_mem.mp hmem)
  rw [token, if_pos (Or.inl hne), scanLines, if_neg fun hnil => hne hnil.2, if_neg hnot,
    if_pos herr]
  dsimp only
  rw [List.drop_length]

/-- Without a line in the buffer more has to be read. -/
theorem token_of_notMem {s : Scanner} (h : newline ∉ s.data) (hmore : s.data = [] ∨ s.err = none) :
    s.token = (none, s) := by
  have hnot : ¬s.data.contains newline = true := fun hmem => h (List.contains_iff_mem.mp hmem)
  have hsplit : scanLines s.data s.err.isSome = (0, none) := by
    rw [scanLines, if_neg hnot]
    rcases hmore with hnil | hnone
    · cases herr : s.err.isSome with
      | true => rw [if_pos ⟨rfl, hnil⟩]
      | false => rfl
    · rw [hnone]
      rfl
  unfold token
  split
  · rw [hsplit]
    rfl
  · rfl

theorem setErr_of_none {s : Scanner} (h : s.err = none) (e : ScanError) :
    s.setErr e = { s with err := some e } := by
  rw [setErr, if_pos (Or.inl h)]

/-- Moving the bytes changes nothing else, and a buffer that is full then is full from its
    beginning. -/
theorem follows_shift {s : Scanner} (h : s.Sound) :
    Follows s s.shift ∧ s.shift.remaining = s.remaining ∧ s.shift.data = s.data ∧
      s.shift.err = s.err ∧
      (s.shift.start + s.shift.data.length = s.shift.size → s.shift.start = 0) := by
  unfold shift
  split
  · have hfits : 0 + s.data.length ≤ s.size := by
      have hfits := h.fits
      omega
    exact ⟨⟨⟨hfits, h.size, h.err, h.lively⟩, rfl, rfl⟩, rfl, rfl, rfl, fun _ => rfl⟩
  · next hstay =>
      refine ⟨⟨h, rfl, rfl⟩, rfl, rfl, rfl, ?_⟩
      intro hfull
      by_contra hpos
      exact hstay ⟨Nat.pos_of_ne_zero hpos, Or.inl hfull⟩

/-- A buffer below the limit becomes larger. -/
theorem follows_grow {s : Scanner} (h : s.Sound) (hlt : s.size < s.maxTokenSize) :
    Follows s s.grow ∧ s.grow.remaining = s.remaining ∧
      s.grow.start + s.grow.data.length < s.grow.size := by
  have hfits := h.fits
  have hnew : s.size < (if s.size * 2 = 0 then startBufSize else s.size * 2) := by
    split
    · have hstart : 0 < startBufSize := Nat.succ_pos 4095
      omega
    · omega
  have hroom : 0 + s.data.length < s.grow.size := by
    show 0 + s.data.length <
      min (if s.size * 2 = 0 then startBufSize else s.size * 2) s.maxTokenSize
    omega
  exact ⟨⟨⟨Nat.le_of_lt hroom, Nat.min_le_right _ _, h.err, h.lively⟩, rfl, rfl⟩, rfl, hroom⟩

theorem fill_of_some {s : Scanner} {bytes : ByteString} {e : ReadError} {source : Source}
    (h : s.source.read (s.size - (s.start + s.data.length)) = (bytes, some e, source))
    (hnone : s.err = none) (tries : Nat) :
    s.fill (tries + 1) =
      { s with data := s.data ++ bytes, err := some (.read e), source := source } := by
  rw [fill, h]
  exact setErr_of_none (s := { s with data := s.data ++ bytes, source := source }) hnone _

theorem fill_of_none {s : Scanner} {bytes : ByteString} {source : Source}
    (h : s.source.read (s.size - (s.start + s.data.length)) = (bytes, none, source))
    (tries : Nat) :
    s.fill (tries + 1) =
      if bytes ≠ [] then { s with data := s.data ++ bytes, source := source }
      else fill { s with data := s.data ++ bytes, source := source } tries := by
  rw [fill, h]

/-- The reads add to the buffer, or they find the end. -/
theorem follows_fill {s : Scanner} (hs : s.Sound) (hroom : s.start + s.data.length < s.size)
    (hnone : s.err = none) {tries : Nat} (htries : s.source.idle < tries) :
    Follows s (s.fill tries) ∧ (s.fill tries).remaining = s.remaining ∧
      ((s.fill tries).err = none → s.data.length < (s.fill tries).data.length) := by
  induction tries generalizing s with
  | zero => omega
  | succ tries ih =>
      have hread := hs.lively.read (s.size - (s.start + s.data.length))
      rcases s.source.read_cases (n := s.size - (s.start + s.data.length)) (by omega) with
        ⟨source, hidle, hrest, hlast, hless⟩ | hdelivered
      · have hfill : s.fill (tries + 1) = fill { s with source := source } tries := by
          rw [fill_of_none hidle, List.append_nil]
          exact if_neg fun hne => hne rfl
        rw [hidle] at hread
        have hsound : Sound { s with source := source } := by
          refine ⟨hs.fits, hs.size, ?_, hread⟩
          intro e he
          cases hnone.symm.trans he
        rw [hfill]
        obtain ⟨hfollows, hremaining, hgrows⟩ := ih hsound hroom hnone (by dsimp only; omega)
        refine ⟨⟨hfollows.sound, hfollows.maxTokenSize, hfollows.last.trans hlast⟩,
          hremaining.trans ?_, hgrows⟩
        unfold remaining
        rw [hrest]
      · generalize hx : s.source.read (s.size - (s.start + s.data.length)) = x
          at hread hdelivered
        cases hdelivered with
        | @ended source hrest hrest' hlast =>
            have hfill : s.fill (tries + 1) =
                { s with err := some (.read s.source.last), source := source } := by
              rw [fill_of_some hx hnone, List.append_nil]
            rw [hfill]
            refine ⟨⟨⟨hs.fits, hs.size, ?_, hread⟩, rfl, hlast⟩, ?_, ?_⟩
            · intro e he
              cases he
              exact ⟨congrArg ScanError.read hlast.symm, hrest'⟩
            · unfold remaining
              rw [hrest', hrest]
            · intro hnone'
              cases hnone'
        | @data bytes err source hne hle hrest hlast herr =>
            have hlength : (s.data ++ bytes).length = s.data.length + bytes.length :=
              List.length_append
            have hpos : 0 < bytes.length := List.length_pos_iff.mpr hne
            have hfits : s.start + (s.data ++ bytes).length ≤ s.size := by omega
            have hremaining : (s.data ++ bytes) ++ source.rest = s.data ++ s.source.rest := by
              rw [List.append_assoc, hrest]
            cases err with
            | none =>
                have hfill : s.fill (tries + 1) =
                    { s with data := s.data ++ bytes, source := source } := by
                  rw [fill_of_none hx, if_pos hne]
                rw [hfill]
                refine ⟨⟨⟨hfits, hs.size, ?_, hread⟩, rfl, hlast⟩, hremaining, ?_⟩
                · intro e he
                  cases hnone.symm.trans he
                · intro _
                  dsimp only
                  omega
            | some e =>
                obtain ⟨hsame, hrest'⟩ := herr e rfl
                rw [fill_of_some hx hnone]
                refine ⟨⟨⟨hfits, hs.size, ?_, hread⟩, rfl, hlast⟩, hremaining, ?_⟩
                · intro e' he
                  cases he
                  exact ⟨congrArg ScanError.read (hsame.trans hlast.symm), hrest'⟩
                · intro hnone'
                  cases hnone'

/-! ### What `Scan` returns -/

/-- How `Scan` ends: with a line, with the last line where the stream does not end it, at the end,
    or because a line is too long.  The bytes of the buffer are then lost, and the others are
    never read. -/
inductive Scanned (s : Scanner) : Option ByteString × Scanner → Prop where
  | line {line : ByteString} {s' : Scanner} (hline : newline ∉ line)
      (hlength : line.length < s.maxTokenSize)
      (hremaining : s.remaining = line ++ newline :: s'.remaining) (hfollows : Follows s s') :
      Scanned s (some (dropCR line), s')
  | last {line : ByteString} {s' : Scanner} (hne : line ≠ []) (hline : newline ∉ line)
      (hlength : line.length ≤ s.maxTokenSize) (hremaining : s.remaining = line)
      (hremaining' : s'.remaining = []) (hfollows : Follows s s') :
      Scanned s (some (dropCR line), s')
  | ended {s' : Scanner} (hremaining : s.remaining = []) (hremaining' : s'.remaining = []) :
      Scanned s (none, s')
  | tooLong {part : ByteString} {s' : Scanner} (hpart : newline ∉ part)
      (hlength : part.length = s.maxTokenSize)
      (hremaining : s.remaining = part ++ s'.source.rest) (herr : s'.err = some .tooLong) :
      Scanned s (none, s')

theorem Scanned.of_follows {s s' : Scanner} {x : Option ByteString × Scanner}
    (hfollows : Follows s s') (hremaining : s'.remaining = s.remaining) (h : Scanned s' x) :
    Scanned s x := by
  cases h with
  | line hline hlength h hnext =>
      exact .line hline (hfollows.maxTokenSize ▸ hlength) (hremaining.symm.trans h)
        (hfollows.trans hnext)
  | last hne hline hlength h h' hnext =>
      exact .last hne hline (hfollows.maxTokenSize ▸ hlength) (hremaining.symm.trans h) h'
        (hfollows.trans hnext)
  | ended h h' => exact .ended (hremaining.symm.trans h) h'
  | tooLong hpart hlength h herr =>
      exact .tooLong hpart (hlength.trans hfollows.maxTokenSize) (hremaining.symm.trans h) herr

/-- With a line in the buffer. -/
theorem Sound.scanned_token_of_mem {s : Scanner} (h : s.Sound) (hmem : newline ∈ s.data) :
    ∃ t s', s.token = (some t, s') ∧ Scanned s (some t, s') := by
  have hcut := Reader.eq_takeWhile_append_cons hmem
  have hfits := h.fits
  have hsize := h.size
  have hlength := congrArg List.length hcut
  rw [List.length_append, List.length_cons] at hlength
  refine ⟨_, _, token_of_mem hmem, .line ?_ ?_ ?_ ⟨⟨?_, h.size, h.err, h.lively⟩, rfl, rfl⟩⟩
  · intro hin
    simpa using List.all_eq_true.mp List.all_takeWhile newline hin
  · omega
  · unfold remaining
    dsimp only
    conv_lhs => rw [hcut]
    rw [List.append_assoc, List.cons_append]
  · dsimp only
    omega

/-- At the end of the stream, with bytes of a line that is not ended. -/
theorem Sound.scanned_token_of_err {s : Scanner} (h : s.Sound) (hnot : newline ∉ s.data)
    (hne : s.data ≠ []) {e : ScanError} (he : s.err = some e) :
    ∃ t s', s.token = (some t, s') ∧ Scanned s (some t, s') := by
  have hfits := h.fits
  have hsize := h.size
  obtain ⟨-, hrest⟩ := h.err e he
  have hsome : s.err.isSome = true := by
    rw [he]
    rfl
  refine ⟨_, _, token_of_err hnot hne hsome,
    .last hne hnot (by omega) ?_ ?_ ⟨⟨?_, h.size, h.err, h.lively⟩, rfl, rfl⟩⟩
  · unfold remaining
    rw [hrest, List.append_nil]
  · exact hrest
  · dsimp only
    rw [List.length_nil]
    omega

theorem scanned_scanFrom {s : Scanner} (hs : s.Sound) {fuel : Nat} (hpos : 0 < fuel)
    (hfuel : s.err = none → s.maxTokenSize - s.data.length < fuel) :
    Scanned s (scanFrom fuel s) := by
  induction fuel generalizing s with
  | zero => omega
  | succ fuel ih =>
      -- a line in the buffer, the end of the stream, or more to be read
      by_cases hmem : newline ∈ s.data
      · obtain ⟨t, s', htoken, hscanned⟩ := hs.scanned_token_of_mem hmem
        rw [scanFrom, htoken]
        exact hscanned
      · cases he : s.err with
        | some e =>
            by_cases hnil : s.data = []
            · obtain ⟨-, hrest⟩ := hs.err e he
              rw [scanFrom, token_of_notMem hmem (Or.inl hnil)]
              dsimp only
              rw [he, if_pos Option.isSome_some]
              refine .ended ?_ hrest
              unfold remaining
              rw [hnil, hrest]
              rfl
            · obtain ⟨t, s', htoken, hscanned⟩ := hs.scanned_token_of_err hmem hnil he
              rw [scanFrom, htoken]
              exact hscanned
        | none =>
            obtain ⟨hshift, hremaining, hdata, herr, hfront⟩ := follows_shift hs
            rw [scanFrom, token_of_notMem hmem (Or.inr he)]
            dsimp only
            rw [he, if_neg (by decide)]
            rw [he] at herr
            have hlt := hfuel he
            have hmax := hshift.maxTokenSize
            have hsize := hshift.sound.size
            -- one round of reads, from a buffer with room
            have hround : ∀ s', Follows s s' → s'.remaining = s.remaining → s'.err = none →
                s'.data = s.data → s'.start + s'.data.length < s'.size →
                Scanned s (scanFrom fuel (s'.fill (maxConsecutiveEmptyReads + 1))) := by
              intro s' hfollows hsame hnone hbytes hroom
              obtain ⟨hfill, hsame', hgrows⟩ := follows_fill hfollows.sound hroom hnone
                (Nat.lt_succ_of_lt hfollows.sound.lively.idle_lt)
              have hlimit := hfollows.sound.size
              have hmax' := hfollows.maxTokenSize
              have hmax'' := hfill.maxTokenSize
              rw [hbytes] at hroom hgrows
              refine (ih hfill.sound (by omega) ?_).of_follows (hfollows.trans hfill)
                (hsame'.trans hsame)
              intro hnone'
              have hmore := hgrows hnone'
              omega
            split
            · next hfull =>
                split
                · next hlimit =>
                    rw [setErr_of_none herr]
                    have hstart := hfront hfull
                    have hcut : s.remaining = s.shift.data ++ s.shift.source.rest :=
                      hremaining.symm
                    refine .tooLong ?_ (by omega) hcut rfl
                    rw [hdata]
                    exact hmem
                · next hlimit =>
                    obtain ⟨hgrow, hsame, hroom⟩ :=
                      follows_grow hshift.sound (Nat.lt_of_not_le hlimit)
                    exact hround _ (hshift.trans hgrow) (hsame.trans hremaining) herr hdata hroom
            · next hroom =>
                exact hround _ hshift hremaining herr hdata
                  (Nat.lt_of_le_of_ne hshift.sound.fits hroom)

/-- What `Scan` returns is a matter of the bytes that are still to come. -/
theorem Sound.scanned_scan {s : Scanner} (h : s.Sound) : Scanned s s.scan :=
  scanned_scanFrom h (Nat.succ_pos _) fun _ => by omega

/-- A token is taken from what is to come. -/
theorem Scanned.follows {s s' : Scanner} {token : ByteString} (h : Scanned s (some token, s')) :
    Follows s s' ∧ s'.remaining.length < s.remaining.length := by
  cases h with
  | line hline hlength hremaining hfollows =>
      refine ⟨hfollows, ?_⟩
      rw [hremaining, List.length_append, List.length_cons]
      omega
  | last hne hline hlength hremaining hremaining' hfollows =>
      refine ⟨hfollows, ?_⟩
      rw [hremaining, hremaining']
      exact List.length_pos_iff.mpr hne

/-- The token is the first line of what is to come.  Only where that is one line of the largest
    size, without an end, it depends on when the reader reports the end of the stream. -/
theorem Scanned.eq_scanLine {s : Scanner} {x : Option ByteString × Scanner} (h : Scanned s x)
    (hmax : s.maxTokenSize = maxScanTokenSize)
    (hends : newline ∈ s.remaining ∨ s.remaining.length ≠ maxScanTokenSize) :
    x.1 = scanLine s.remaining := by
  cases h with
  | @line line s' hline hlength hremaining hfollows =>
      have hfirst : firstLine s.remaining = line := by
        rw [hremaining, firstLine_append_newline hline]
      have hne : s.remaining ≠ [] := by simp [hremaining]
      rw [scanLine, hfirst, if_pos ⟨hne, hmax ▸ hlength⟩]
  | @last line s' hne hline hlength hremaining hremaining' hfollows =>
      have hfirst : firstLine s.remaining = line := by
        rw [hremaining, ← List.append_nil line, firstLine_append hline]
        rfl
      rw [hremaining] at hends
      have hlt : line.length < maxScanTokenSize :=
        Nat.lt_of_le_of_ne (hmax ▸ hlength) (hends.resolve_left hline)
      rw [scanLine, hfirst, hremaining, if_pos ⟨hne, hlt⟩]
  | ended hremaining hremaining' =>
      rw [hremaining]
      rfl
  | @tooLong part s' hpart hlength hremaining herr =>
      have hfirst : maxScanTokenSize ≤ (firstLine s.remaining).length := by
        rw [hremaining, firstLine_append hpart, List.length_append, hlength, hmax]
        exact Nat.le_add_right _ _
      rw [scanLine, if_neg fun hshort => absurd hshort.2 (Nat.not_lt.mpr hfirst)]

end Scanner

/-! ### Streams that a scanner reads to their end -/

/-- The next `room` bytes end the line or the stream, and so do `limit` bytes from the beginning
    of each later line. -/
def shortLines (limit : Nat) : Nat → ByteString → Bool
  | _, [] => true
  | 0, _ :: _ => false
  | room + 1, c :: s =>
      if c = newline then shortLines limit limit s else shortLines limit room s

theorem shortLines_append (limit room : Nat) {line : ByteString} (h : newline ∉ line)
    (s : ByteString) : shortLines limit (line.length + room) (line ++ s) =
      shortLines limit room s := by
  induction line with
  | nil => rw [List.length_nil, Nat.zero_add, List.nil_append]
  | cons c line ih =>
      rw [List.mem_cons, not_or] at h
      obtain ⟨hc, hline⟩ := h
      rw [List.length_cons, Nat.add_right_comm, List.cons_append, shortLines, if_neg (Ne.symm hc)]
      exact ih hline

/-- A line that ends in time. -/
theorem shortLines_line {limit : Nat} {line : ByteString} (h : newline ∉ line)
    (hlength : line.length < limit) (s : ByteString) :
    shortLines limit limit (line ++ newline :: s) = shortLines limit limit s := by
  obtain ⟨room, rfl⟩ : ∃ room, limit = line.length + (room + 1) :=
    ⟨limit - line.length - 1, by omega⟩
  rw [shortLines_append _ _ h, shortLines, if_pos rfl]

/-- A last line without an end. -/
theorem shortLines_last {limit : Nat} {line : ByteString} (h : newline ∉ line)
    (hlength : line.length ≤ limit) : shortLines limit limit line = true := by
  obtain ⟨room, rfl⟩ := Nat.exists_eq_add_of_le hlength
  have happend := shortLines_append (line.length + room) room h []
  rw [List.append_nil] at happend
  rw [happend, shortLines]

/-- The limit is reached without a line end. -/
theorem shortLines_tooLong {limit : Nat} {part : ByteString} (h : newline ∉ part)
    (hlength : part.length = limit) (s : ByteString) :
    shortLines limit limit (part ++ s) = true ↔ s = [] := by
  have happend := shortLines_append limit 0 h s
  rw [Nat.add_zero, hlength] at happend
  rw [happend]
  cases s with
  | nil => exact iff_of_true rfl rfl
  | cons c s => exact iff_of_false Bool.false_ne_true (List.cons_ne_nil c s)

namespace Scanner

/-- A token leaves the question open that the end of the scan decides. -/
theorem Scanned.shortLines_iff {s s' : Scanner} {token : Option ByteString}
    (h : Scanned s (token, s')) :
    shortLines s.maxTokenSize s.maxTokenSize s.remaining = true ↔
      if token.isSome then shortLines s.maxTokenSize s.maxTokenSize s'.remaining = true
      else s'.source.rest = [] := by
  cases h with
  | line hline hlength hremaining hfollows =>
      rw [hremaining, shortLines_line hline hlength]
      rfl
  | last hne hline hlength hremaining hremaining' hfollows =>
      rw [hremaining, hremaining', shortLines_last hline hlength]
      exact iff_of_true rfl rfl
  | ended hremaining hremaining' =>
      rw [hremaining]
      exact iff_of_true rfl (List.append_eq_nil_iff.mp hremaining').2
  | tooLong hpart hlength hremaining herr =>
      rw [hremaining]
      exact shortLines_tooLong hpart hlength _

end Scanner

end Bufio
