import GoPlugin.LogTurns

/-!
# Stack traces on the plugin's stderr (`Client.logStderr`)

When the plugin crashes, the Go runtime prints a message and a stack trace.  The pump recognises
the line that begins with the message and logs the lines after it as errors, but for those that
say otherwise.  It looks at whole lines only: what does not fit into the buffer comes in parts, and
these are logged for debugging, whatever they are.
-/

namespace GoPlugin

open ByteString Bufio StderrPump

/-! ### The lines of a stream -/

/-- What follows the bytes of a line. -/
def LineEnd (rest : ByteString) : Prop := rest = [] ∨ ∃ after, rest = newline :: after

/-- A piece without a newline is a piece of the line. -/
theorem append_eq_append_lineEnd {part raw rest u : ByteString} (hpart : newline ∉ part)
    (hrest : LineEnd rest) (h : raw ++ rest = part ++ u) :
    ∃ raw', raw = part ++ raw' ∧ u = raw' ++ rest := by
  rcases hrest with rfl | ⟨after, rfl⟩
  · rw [List.append_nil] at h
    exact ⟨u, h, (List.append_nil u).symm⟩
  · exact append_eq_append_newline hpart h

/-- The end of the first line is the end of this one. -/
theorem append_eq_append_newline_of_lineEnd {raw rest raw' after : ByteString}
    (hraw : newline ∉ raw) (hraw' : newline ∉ raw') (hrest : LineEnd rest)
    (h : raw ++ rest = raw' ++ newline :: after) : raw = raw' ∧ rest = newline :: after := by
  rcases hrest with rfl | ⟨after', rfl⟩
  · rw [List.append_nil] at h
    rw [h] at hraw
    exact absurd (List.mem_append_right raw' List.mem_cons_self) hraw
  · obtain ⟨rfl, rfl⟩ := append_newline_inj hraw hraw' h
    exact ⟨rfl, rfl⟩

theorem LineEnd.eq_nil {rest : ByteString} (h : LineEnd rest) (hrest : newline ∉ rest) :
    rest = [] := by
  rcases h with rfl | ⟨after, rfl⟩
  · rfl
  · exact absurd List.mem_cons_self hrest

theorem Terminated.append_line {s : ByteString} (h : Terminated s) (raw : ByteString) :
    Terminated (raw ++ newline :: s) := by
  refine Or.inr ?_
  rw [List.getLast?_append_cons]
  rcases h with rfl | hlast
  · rfl
  · rw [List.getLast?_cons, hlast]
    rfl

/-- A line of the stream: what comes before it, its bytes, and what follows them, which begins with
    the line's end unless the stream ends there. -/
structure StderrLine (stream : ByteString) where
  before : ByteString
  raw : ByteString
  rest : ByteString
  eq_stream : before ++ (raw ++ rest) = stream
  terminated : Terminated before
  newline_notMem : newline ∉ raw
  ends : (rest = [] ∧ raw ≠ []) ∨ ∃ after, rest = newline :: after

namespace StderrLine

variable {stream : ByteString}

/-- The text of the line, as `ReadLine` returns it. -/
def text (l : StderrLine stream) : ByteString := if l.rest = [] then l.raw else dropCR l.raw

/-- Neither JSON nor tagged with a level. -/
def Plain (deps : LogDeps) (l : StderrLine stream) : Prop :=
  parseJSON deps l.text = none ∧ tagLevel l.text = none

/-- The line is the first one of a stack trace, or it comes after one. -/
def InTrace (l : StderrLine stream) : Prop :=
  (∃ first : StderrLine l.before, startsPanic first.text = true) ∨ startsPanic l.text = true

theorem lineEnd (l : StderrLine stream) : LineEnd l.rest :=
  l.ends.imp_left And.left

theorem ne_nil (l : StderrLine stream) : l.raw ++ l.rest ≠ [] := by
  intro hnil
  obtain ⟨hraw, hrest⟩ := List.append_eq_nil_iff.mp hnil
  rcases l.ends with ⟨-, hne⟩ | ⟨after, hafter⟩
  · exact hne hraw
  · cases hrest.symm.trans hafter

/-- In a stream whose last line is ended, every line is. -/
theorem exists_after (l : StderrLine stream) (h : Terminated stream) :
    ∃ after, l.rest = newline :: after := by
  rcases l.ends with ⟨hrest, hne⟩ | hafter
  · have hlast : Terminated (l.raw ++ l.rest) := Terminated.of_append (l.eq_stream ▸ h)
    rw [hrest, List.append_nil] at hlast
    exact absurd (hlast.newline_mem hne) l.newline_notMem
  · exact hafter

theorem terminated_after (l : StderrLine stream) (h : Terminated stream) {after : ByteString}
    (hafter : l.rest = newline :: after) : Terminated after := by
  have hlast : Terminated ((l.before ++ l.raw ++ [newline]) ++ after) := by
    rw [List.append_assoc, List.append_assoc, List.singleton_append, ← hafter, l.eq_stream]
    exact h
  exact hlast.of_append

/-- A line of what comes first is a line of the whole stream. -/
def extend {before : ByteString} (l : StderrLine before) (h : Terminated before)
    (rest : ByteString) : StderrLine (before ++ rest) where
  before := l.before
  raw := l.raw
  rest := l.rest ++ rest
  eq_stream := by
    rw [← List.append_assoc l.raw, ← List.append_assoc l.before, l.eq_stream]
  terminated := l.terminated
  newline_notMem := l.newline_notMem
  ends := by
    obtain ⟨after, hafter⟩ := l.exists_after h
    exact Or.inr ⟨after ++ rest, by rw [hafter, List.cons_append]⟩

theorem text_extend {before : ByteString} (l : StderrLine before)
    (h : Terminated before) (rest : ByteString) : (l.extend h rest).text = l.text := by
  obtain ⟨after, hafter⟩ := l.exists_after h
  have hne : l.rest ≠ [] := by
    rw [hafter]
    exact List.cons_ne_nil _ _
  have hne' : (l.extend h rest).rest ≠ [] := List.append_ne_nil_of_left_ne_nil hne rest
  rw [text, text, if_neg hne, if_neg hne']
  rfl

/-- The first line. -/
def head {raw : ByteString} (h : newline ∉ raw) (after : ByteString) :
    StderrLine (raw ++ newline :: after) where
  before := []
  raw := raw
  rest := newline :: after
  eq_stream := rfl
  terminated := Or.inl rfl
  newline_notMem := h
  ends := Or.inr ⟨after, rfl⟩

/-- A line of what comes after the first one. -/
def behind (raw : ByteString) {s : ByteString} (l : StderrLine s) :
    StderrLine (raw ++ newline :: s) where
  before := raw ++ newline :: l.before
  raw := l.raw
  rest := l.rest
  eq_stream := by
    rw [List.append_assoc, List.cons_append, l.eq_stream]
  terminated := l.terminated.append_line raw
  newline_notMem := l.newline_notMem
  ends := l.ends

end StderrLine

/-! ### What begins a stack trace -/

/-- A line with a tag begins with a bracket. -/
theorem tagLevel_cons {c : UInt8} (h : c ≠ 91) (line : ByteString) :
    tagLevel (c :: line) = none := by
  have hc : (91 == c) = false := beq_eq_false_iff_ne.mpr h.symm
  have hnot : ∀ tag : ByteString, ¬(91 :: tag).isPrefixOf (c :: line) = true := by
    intro tag
    rw [List.isPrefixOf_cons_cons, hc]
    exact Bool.false_ne_true
  unfold tagLevel
  rw [if_neg, if_neg, if_neg, if_neg, if_neg]
  all_goals exact hnot _

/-- The messages of the runtime do not. -/
theorem tagLevel_of_startsPanic {line : ByteString} (h : startsPanic line = true) :
    tagLevel line = none := by
  cases line with
  | nil => cases h
  | cons c line =>
      refine tagLevel_cons ?_ line
      rintro rfl
      cases h

/-- `encoding/json` makes no object of what begins like a message of the runtime. -/
def RefusesPanics (deps : LogDeps) : Prop :=
  ∀ line, startsPanic line = true → deps.unmarshal line = none

variable {deps : LogDeps} {loggerLevel : LogLevel} {stream : ByteString}

theorem StderrLine.plain_of_startsPanic (hdeps : RefusesPanics deps) {l : StderrLine stream}
    (h : startsPanic l.text = true) : l.Plain deps := by
  refine ⟨?_, tagLevel_of_startsPanic h⟩
  rw [parseJSON, hdeps l.text h]

/-- What the pump sees of a line that begins a stack trace. -/
theorem entersPanic_of_startsPanic (hdeps : RefusesPanics deps) {line : ByteString}
    (h : startsPanic line = true) : entersPanic deps line = true := by
  have hparse : parseJSON deps line = none := by rw [parseJSON, hdeps line h]
  rw [entersPanic, beginsTrace, hparse, tagLevel_of_startsPanic h, h]
  rfl

theorem startsPanic_of_entersPanic {line : ByteString} (h : entersPanic deps line = true) :
    startsPanic line = true := by
  unfold entersPanic beginsTrace at h
  simp only [Bool.and_eq_true] at h
  exact h.2.2

/-! ### One turn -/

/-- The pump stands before `rest`, in the middle of a line or not, with a buffer of this size. -/
structure Stands (limit : Nat) (inLine : Bool) (rest : ByteString) (s : StderrPump) : Prop where
  sound : s.reader.Sound
  lively : s.reader.source.Lively
  size : s.reader.size = limit
  large : 1 < limit
  remaining : s.reader.remaining = rest
  continuation : s.continuation = inLine

/-- From `s` to `s'` there are only calls for debugging. -/
structure Parts (s s' : StderrPump) : Prop where
  inPanic : s'.inPanic = s.inPanic
  log : ∃ calls, s'.log = s.log ++ calls ∧ ∀ c ∈ calls, c.level = .debug

theorem Parts.trans {s s' s'' : StderrPump} (h : Parts s s') (h' : Parts s' s'') :
    Parts s s'' := by
  obtain ⟨cs, hcs, hdebug⟩ := h.log
  obtain ⟨ds, hds, hdebug'⟩ := h'.log
  refine ⟨h'.inPanic.trans h.inPanic, cs ++ ds, ?_, ?_⟩
  · rw [hds, hcs, List.append_assoc]
  · intro c hc
    rcases List.mem_append.mp hc with hc | hc
    · exact hdebug c hc
    · exact hdebug' c hc

/-- From `s` to `s'` the pump has dealt with a whole line. -/
structure Whole (deps : LogDeps) (loggerLevel : LogLevel) (line : ByteString)
    (s s' : StderrPump) : Prop where
  inPanic : s'.inPanic = (s.inPanic || (!skips deps loggerLevel line && entersPanic deps line))
  log : s'.log =
    s.log ++ if skips deps loggerLevel line then [] else [plainCall deps s.inPanic line]

theorem parts_take (deps : LogDeps) (loggerLevel : LogLevel) (s : StderrPump) (line : ByteString)
    {prefixed : Bool} (h : prefixed = true ∨ s.continuation = true) :
    Parts s (s.take deps loggerLevel line prefixed) ∧
      (s.take deps loggerLevel line prefixed).continuation = prefixed := by
  have hpart : (prefixed || (s.write line).continuation) = true := Bool.or_eq_true_iff.mpr h
  unfold take
  dsimp only
  rw [if_pos hpart]
  refine ⟨⟨?_, [⟨.debug, line, []⟩], ?_, ?_⟩, rfl⟩
  · cases prefixed <;> rfl
  · cases prefixed <;> rfl
  · intro c hc
    cases List.mem_singleton.mp hc
    rfl

theorem whole_take (deps : LogDeps) (loggerLevel : LogLevel) (s : StderrPump) (line : ByteString)
    (h : s.continuation = false) :
    Whole deps loggerLevel line s (s.take deps loggerLevel line false) ∧
      (s.take deps loggerLevel line false).continuation = false := by
  have hwhole : ¬(false || (s.write line).continuation) = true := by
    rw [Bool.false_or]
    exact Bool.eq_false_iff.mp h
  unfold take
  dsimp only
  rw [if_neg hwhole, logLine_eq]
  cases hskip : skips deps loggerLevel line with
  | true => exact ⟨⟨by rw [hskip]; simp [write], by rw [hskip]; simp [write]⟩, h⟩
  | false =>
      rw [if_neg Bool.false_ne_true, plainLine_eq]
      exact ⟨⟨by rw [hskip]; rfl, by rw [hskip]; rfl⟩, h⟩

/-- What a turn does before bytes that are still to come: `ReadLine` reaches the end of the line,
    it fills the buffer, or it reaches the end of the stream. -/
inductive Turned (deps : LogDeps) (loggerLevel : LogLevel) (limit : Nat) (inLine : Bool)
    (rest : ByteString) (s s' : StderrPump) : Prop where
  | line (raw after : ByteString) (hraw : newline ∉ raw) (hrest : rest = raw ++ newline :: after)
      (hstands : Stands limit false after s') (hparts : inLine = true → Parts s s')
      (hwhole : inLine = false → Whole deps loggerLevel (dropCR raw) s s')
      (hfits : raw.length < limit)
  | part (piece after : ByteString) (hne : piece ≠ []) (hpiece : newline ∉ piece)
      (hrest : rest = piece ++ after) (hstands : Stands limit true after s') (hparts : Parts s s')
      (hlong : ∃ full tail, newline ∉ full ∧ full.length = limit ∧ rest = full ++ tail)
      (hexact : newline ∉ rest → rest.length = limit → s.reader.endsTogether = false)
  | last (hrest : newline ∉ rest) (hstands : Stands limit false [] s')
      (hparts : inLine = true → Parts s s')
      (hwhole : inLine = false → Whole deps loggerLevel rest s s')
      (hfits : rest.length < limit ∨ (rest.length = limit ∧ s.reader.endsTogether = true))

theorem Stands.after_take {limit : Nat} {inLine : Bool} {rest : ByteString} {s : StderrPump}
    (h : Stands limit inLine rest s) {r : Reader} (hfollows : s.reader.Follows r)
    (line : ByteString) {prefixed : Bool}
    (hpart : (take deps loggerLevel { s with reader := r } line prefixed).continuation =
      prefixed) :
    Stands limit prefixed r.remaining
      (take deps loggerLevel { s with reader := r } line prefixed) := by
  have hreader := (take_frame deps loggerLevel { s with reader := r } line prefixed).2
  refine ⟨?_, ?_, ?_, h.large, ?_, hpart⟩
  · rw [hreader]
    exact hfollows.sound
  · rw [hreader]
    exact hfollows.lively
  · rw [hreader]
    exact hfollows.size.trans h.size
  · rw [hreader]

theorem Stands.lined {limit : Nat} {inLine : Bool} {rest : ByteString} {s : StderrPump}
    (h : Stands limit inLine rest s) :
    s.reader.Follows s.reader.readLine.2 ∧ Reader.Lined s.reader s.reader.readLine := by
  have hlarge : 1 < s.reader.size := by
    rw [h.size]
    exact h.large
  exact Reader.lined_readLine h.sound h.lively hlarge

/-- Whether the last line comes in parts where it just fills the buffer. -/
theorem Stands.isPrefix_readLine {limit : Nat} {inLine : Bool} {rest : ByteString}
    {s : StderrPump} (h : Stands limit inLine rest s) (hnot : newline ∉ rest)
    (hexact : rest.length = limit) : s.reader.readLine.1.isPrefix = !s.reader.endsTogether := by
  apply Reader.isPrefix_readLine_of_exact h.sound h.lively
  · rw [h.remaining]
    exact hnot
  · rw [h.remaining, h.size]
    exact hexact

theorem Stands.turn (deps : LogDeps) (loggerLevel : LogLevel) {limit : Nat} {inLine : Bool}
    {rest : ByteString} {s : StderrPump} (h : Stands limit inLine rest s) (hne : rest ≠ []) :
    ∃ s', s.turn deps loggerLevel = .next s' ∧
      Turned deps loggerLevel limit inLine rest s s' := by
  -- the end of a line, where the parts of it or the whole of it are logged
  have hended : ∀ {r : Reader} (line : ByteString), s.reader.Follows r →
      Stands limit false r.remaining (take deps loggerLevel { s with reader := r } line false) ∧
        (inLine = true → Parts s (take deps loggerLevel { s with reader := r } line false)) ∧
        (inLine = false → Whole deps loggerLevel line s
          (take deps loggerLevel { s with reader := r } line false)) := by
    intro r line hfollows
    have hcontinuation := h.continuation
    cases inLine with
    | true =>
        have hpart : false = true ∨ s.continuation = true := Or.inr hcontinuation
        obtain ⟨hparts, hpart⟩ := parts_take deps loggerLevel { s with reader := r } line hpart
        exact ⟨h.after_take hfollows line hpart, fun _ => ⟨hparts.inPanic, hparts.log⟩,
          fun hfalse => Bool.noConfusion hfalse⟩
    | false =>
        obtain ⟨hwhole, hpart⟩ :=
          whole_take deps loggerLevel { s with reader := r } line hcontinuation
        exact ⟨h.after_take hfollows line hpart, fun htrue => Bool.noConfusion htrue,
          fun _ => ⟨hwhole.inPanic, hwhole.log⟩⟩
  obtain ⟨hfollows, hlined⟩ := h.lined
  unfold StderrPump.turn turnWith
  generalize hread : s.reader.readLine = x at hfollows hlined
  cases hlined with
  | @line raw r hraw hremaining =>
      obtain ⟨hstands, hparts, hwhole⟩ := hended (dropCR raw) hfollows
      have hfits := Reader.length_lt_of_readLine h.sound h.lively hread hraw hremaining
      rw [h.size] at hfits
      rw [h.remaining] at hremaining
      exact ⟨_, rfl, .line raw r.remaining hraw hremaining hstands hparts hwhole hfits⟩
  | @part piece r hpiece hnewline hremaining hcut =>
      have hlong := Reader.size_le_of_part h.sound h.lively hread
      rw [h.size, h.remaining] at hlong
      rw [h.remaining] at hremaining
      have hpart : true = true ∨ s.continuation = true := Or.inl rfl
      obtain ⟨hparts, hpart⟩ := parts_take deps loggerLevel { s with reader := r } piece hpart
      refine ⟨_, rfl, .part piece r.remaining hpiece hnewline hremaining
        (h.after_take hfollows piece hpart) ⟨hparts.inPanic, hparts.log⟩ hlong ?_⟩
      intro hnot hexact
      have hprefixed := h.isPrefix_readLine hnot hexact
      rw [hread] at hprefixed
      exact Bool.eq_false_of_not_eq_true' hprefixed.symm
  | @last raw r hpiece hnewline hremaining hremaining' =>
      obtain ⟨hstands, hparts, hwhole⟩ := hended raw hfollows
      rw [hremaining'] at hstands
      have hle := Reader.length_le_of_readLine h.sound h.lively hread (hremaining ▸ hnewline)
      rw [h.remaining, h.size] at hle
      rw [h.remaining] at hremaining
      cases hremaining
      refine ⟨_, rfl, .last hnewline hstands hparts hwhole ?_⟩
      rcases Nat.lt_or_eq_of_le hle with hlt | hexact
      · exact Or.inl hlt
      · have hprefixed := h.isPrefix_readLine hnewline hexact
        rw [hread] at hprefixed
        exact Or.inr ⟨hexact, Bool.eq_true_of_not_eq_false' hprefixed.symm⟩
  | ended hremaining hremaining' => exact absurd (h.remaining.symm.trans hremaining) hne

/-! ### A whole line -/

/-- From `s` the pump gets to the end of the line, where it stands in `s'`. -/
structure Passes (deps : LogDeps) (loggerLevel : LogLevel) (limit : Nat) (rest : ByteString)
    (s s' : StderrPump) : Prop where
  turns : ∃ n, turns deps loggerLevel n s = some s'
  stands : ∃ inLine, Stands limit inLine rest.tail s' ∧ (rest ≠ [] → inLine = false)

theorem Passes.of_turn {limit : Nat} {rest : ByteString} {s s' s'' : StderrPump}
    (hturn : s.turn deps loggerLevel = .next s') (h : Passes deps loggerLevel limit rest s' s'') :
    Passes deps loggerLevel limit rest s s'' := by
  obtain ⟨n, hn⟩ := h.turns
  exact ⟨⟨n + 1, (turns_succ hturn n).trans hn⟩, h.stands⟩

theorem Passes.stands_of_cons {limit : Nat} {rest after : ByteString} {s s' : StderrPump}
    (h : Passes deps loggerLevel limit rest s s') (hrest : rest = newline :: after) :
    Stands limit false after s' := by
  obtain ⟨inLine, hstands, hfresh⟩ := h.stands
  subst hrest
  cases hfresh (List.cons_ne_nil _ _)
  exact hstands

/-- One turn has been enough. -/
theorem Passes.of_stands {limit : Nat} {rest : ByteString} {s s' : StderrPump}
    (hturn : s.turn deps loggerLevel = .next s') (h : Stands limit false rest.tail s') :
    Passes deps loggerLevel limit rest s s' :=
  ⟨⟨1, turns_succ hturn 0⟩, false, h, fun _ => rfl⟩

/-- The rest of a line that did not fit is logged for debugging. -/
theorem Stands.passes (deps : LogDeps) (loggerLevel : LogLevel) {limit : Nat}
    {raw rest : ByteString} {s : StderrPump} (h : Stands limit true (raw ++ rest) s)
    (hraw : newline ∉ raw) (hrest : LineEnd rest) :
    ∃ s', Passes deps loggerLevel limit rest s s' ∧ Parts s s' := by
  induction hlength : raw.length using Nat.strongRecOn generalizing raw s with
  | ind length ih =>
      by_cases hnil : raw ++ rest = []
      · obtain ⟨rfl, rfl⟩ := List.append_eq_nil_iff.mp hnil
        exact ⟨s, ⟨⟨0, rfl⟩, true, h, fun hne => absurd rfl hne⟩, rfl, [], by simp, by simp⟩
      · obtain ⟨s', hturn, hturned⟩ := h.turn deps loggerLevel hnil
        cases hturned with
        | line raw' after hraw' heq hstands hparts hwhole hfits =>
            obtain ⟨-, rfl⟩ := append_eq_append_newline_of_lineEnd hraw hraw' hrest heq
            exact ⟨s', .of_stands hturn hstands, hparts rfl⟩
        | part piece after hne hpiece heq hstands hparts hlong hexact =>
            obtain ⟨raw', rfl, rfl⟩ := append_eq_append_lineEnd hpiece hrest heq
            have hpos := List.length_pos_iff.mpr hne
            rw [List.length_append] at hlength
            obtain ⟨s'', hpasses, hparts'⟩ := ih raw'.length (by omega) hstands
              (fun hmem => hraw (List.mem_append_right piece hmem)) rfl
            exact ⟨s'', hpasses.of_turn hturn, hparts.trans hparts'⟩
        | last hnot hstands hparts hwhole hfits =>
            have hend := hrest.eq_nil fun hmem => hnot (List.mem_append_right raw hmem)
            rw [hend]
            exact ⟨s', .of_stands hturn hstands, hparts rfl⟩

/-- The line fits into the buffer with its end.  A last line without one may fill the buffer, if
    the error then comes together with the last bytes. -/
def StderrLine.FitsAt (limit : Nat) (l : StderrLine stream) (s : StderrPump) : Prop :=
  l.raw.length < limit ∨
    (l.rest = [] ∧ l.raw.length = limit ∧ s.reader.endsTogether = true)

/-- How the pump has got from the beginning of a line to its end: it has logged the whole of it,
    or parts of it if it does not fit into the buffer. -/
def Handled (deps : LogDeps) (loggerLevel : LogLevel) (limit : Nat) (l : StderrLine stream)
    (s s' : StderrPump) : Prop :=
  (Whole deps loggerLevel l.text s s' ∧ l.FitsAt limit s) ∨
    (Parts s s' ∧ ¬l.FitsAt limit s)

theorem StderrLine.passes (deps : LogDeps) (loggerLevel : LogLevel) (l : StderrLine stream)
    {limit : Nat} {s : StderrPump} (h : Stands limit false (l.raw ++ l.rest) s) :
    ∃ s', Passes deps loggerLevel limit l.rest s s' ∧
      Handled deps loggerLevel limit l s s' := by
  obtain ⟨s', hturn, hturned⟩ := h.turn deps loggerLevel l.ne_nil
  cases hturned with
  | line raw after hraw heq hstands hparts hwhole hfits =>
      obtain ⟨hsame, hrest⟩ :=
        append_eq_append_newline_of_lineEnd l.newline_notMem hraw l.lineEnd heq
      have htext : l.text = dropCR raw := by
        rw [text, hrest, hsame, if_neg (List.cons_ne_nil _ _)]
      refine ⟨s', .of_stands hturn (by rw [hrest]; exact hstands), Or.inl ⟨?_, ?_⟩⟩
      · rw [htext]
        exact hwhole rfl
      · rw [← hsame] at hfits
        exact Or.inl hfits
  | part piece after hne hpiece heq hstands hparts hlong hexact =>
      obtain ⟨raw', hraw', rfl⟩ := append_eq_append_lineEnd hpiece l.lineEnd heq
      obtain ⟨full, tail, hfull, hlength, heq'⟩ := hlong
      obtain ⟨more, hmore, -⟩ := append_eq_append_lineEnd hfull l.lineEnd heq'
      have hnot : newline ∉ raw' := by
        intro hmem
        apply l.newline_notMem
        rw [hraw']
        exact List.mem_append_right piece hmem
      obtain ⟨s'', hpasses, hparts'⟩ := hstands.passes deps loggerLevel hnot l.lineEnd
      refine ⟨s'', hpasses.of_turn hturn, Or.inr ⟨hparts.trans hparts', ?_⟩⟩
      have hle := congrArg List.length hmore
      rw [List.length_append, hlength] at hle
      rintro (hlt | ⟨hrest, hsame, htogether⟩)
      · omega
      · rw [hrest, List.append_nil] at hexact
        exact Bool.noConfusion ((hexact l.newline_notMem hsame).symm.trans htogether)
  | last hnot hstands hparts hwhole hfits =>
      have hrest := l.lineEnd.eq_nil fun hmem => hnot (List.mem_append_right l.raw hmem)
      have htext : l.text = l.raw ++ l.rest := by
        rw [text, if_pos hrest, hrest, List.append_nil]
      refine ⟨s', .of_stands hturn (by rw [hrest]; exact hstands), Or.inl ⟨?_, ?_⟩⟩
      · rw [htext]
        exact hwhole rfl
      · rw [hrest, List.append_nil] at hfits
        exact hfits.imp_right fun hlast => ⟨hrest, hlast⟩

/-! ### Many lines -/

theorem Handled.inPanic_mono {limit : Nat} {l : StderrLine stream} {s s' : StderrPump}
    (h : Handled deps loggerLevel limit l s s') (hs : s.inPanic = true) : s'.inPanic = true := by
  rcases h with ⟨hwhole, -⟩ | ⟨hparts, -⟩
  · rw [hwhole.inPanic, hs, Bool.true_or]
  · rw [hparts.inPanic, hs]

theorem Handled.inPanic_eq {limit : Nat} {l : StderrLine stream} {s s' : StderrPump}
    (h : Handled deps loggerLevel limit l s s') (hl : startsPanic l.text = false) :
    s'.inPanic = s.inPanic := by
  have hnot : entersPanic deps l.text = false := by
    rw [Bool.eq_false_iff]
    intro henters
    cases hl.symm.trans (startsPanic_of_entersPanic henters)
  rcases h with ⟨hwhole, -⟩ | ⟨hparts, -⟩
  · rw [hwhole.inPanic, hnot, Bool.and_false, Bool.or_false]
  · exact hparts.inPanic

theorem skips_of_parseJSON {line : ByteString} (hparse : parseJSON deps line = none)
    (hlevel : loggerLevel ≠ .off) : skips deps loggerLevel line = false := by
  unfold skips
  rw [hparse, decide_eq_false hlevel]
  rfl

/-- The first line of a stack trace is noticed if it fits. -/
theorem Handled.inPanic_of_startsPanic {limit : Nat} {l : StderrLine stream} {s s' : StderrPump}
    (h : Handled deps loggerLevel limit l s s') (hdeps : RefusesPanics deps)
    (hlevel : loggerLevel ≠ .off) (hl : startsPanic l.text = true)
    (hfits : l.FitsAt limit s) : s'.inPanic = true := by
  rcases h with ⟨hwhole, -⟩ | ⟨-, hlong⟩
  · rw [hwhole.inPanic, skips_of_parseJSON (l.plain_of_startsPanic hdeps hl).1 hlevel,
      entersPanic_of_startsPanic hdeps hl, Bool.not_false, Bool.true_and, Bool.or_true]
  · exact absurd hfits hlong

/-- The pump gets past the lines before `rest`. -/
theorem Stands.walk (deps : LogDeps) (loggerLevel : LogLevel) {limit : Nat}
    {before rest : ByteString} {s : StderrPump} (h : Stands limit false (before ++ rest) s)
    (hbefore : Terminated before) :
    ∃ n s', turns deps loggerLevel n s = some s' ∧ Stands limit false rest s' ∧
      (s.inPanic = true → s'.inPanic = true) ∧
      ((∀ l : StderrLine before, startsPanic l.text = false) → s'.inPanic = s.inPanic) := by
  induction hlength : before.length using Nat.strongRecOn generalizing before s with
  | ind length ih =>
      by_cases hnil : before = []
      · rw [hnil] at h
        exact ⟨0, s, rfl, h, id, fun _ => rfl⟩
      · have hcut := Reader.eq_takeWhile_append_cons (hbefore.newline_mem hnil)
        have hraw : newline ∉ before.takeWhile (· ≠ newline) := newline_notMem_firstLine before
        generalize before.takeWhile (· ≠ newline) = raw at hcut hraw
        generalize before.drop (raw.length + 1) = after at hcut
        subst hcut
        rw [List.append_assoc] at h
        obtain ⟨s₁, hpasses, hhandled⟩ :=
          ((StderrLine.head hraw after).extend hbefore rest).passes deps loggerLevel h
        obtain ⟨n, hn⟩ := hpasses.turns
        have hstands : Stands limit false (after ++ rest) s₁ := hpasses.stands_of_cons rfl
        have hafter : Terminated after := (StderrLine.head hraw after).terminated_after hbefore rfl
        rw [List.length_append, List.length_cons] at hlength
        obtain ⟨m, s', hm, hstands', hmono, hkeep⟩ := ih after.length (by omega) hstands hafter rfl
        refine ⟨n + m, s', (turns_add hn m).trans hm, hstands', ?_, ?_⟩
        · intro hs
          exact hmono (hhandled.inPanic_mono hs)
        · intro hnone
          rw [hkeep fun l => hnone (l.behind raw)]
          apply hhandled.inPanic_eq
          rw [StderrLine.text_extend]
          exact hnone (StderrLine.head hraw after)

/-- The pump gets past a stack trace that it has noticed. -/
theorem Stands.walk_trace (hdeps : RefusesPanics deps) (hlevel : loggerLevel ≠ .off) {limit : Nat}
    {before rest : ByteString} {s : StderrPump} (h : Stands limit false (before ++ rest) s)
    (hbefore : Terminated before) (first : StderrLine before)
    (hfirst : startsPanic first.text = true) (hfits : first.raw.length < limit) :
    ∃ n s', turns deps loggerLevel n s = some s' ∧ Stands limit false rest s' ∧
      s'.inPanic = true := by
  obtain ⟨after, hafter⟩ := first.exists_after hbefore
  have hstream := (first.extend hbefore rest).eq_stream
  have hterminated := first.terminated_after hbefore hafter
  rw [← hstream] at h
  obtain ⟨n, s₁, hn, hstands, -, -⟩ := h.walk deps loggerLevel first.terminated
  obtain ⟨s₂, hpasses, hhandled⟩ := (first.extend hbefore rest).passes deps loggerLevel hstands
  have hnoticed := hhandled.inPanic_of_startsPanic hdeps hlevel
    (by rw [StderrLine.text_extend]; exact hfirst) (Or.inl hfits)
  obtain ⟨m, hm⟩ := hpasses.turns
  have hrest : (first.extend hbefore rest).rest = newline :: (after ++ rest) :=
    congrArg (· ++ rest) hafter
  have hstands₂ := hpasses.stands_of_cons hrest
  obtain ⟨k, s', hk, hstands', hmono, -⟩ := hstands₂.walk deps loggerLevel hterminated
  have hnm : turns deps loggerLevel (n + m) s = some s₂ := (turns_add hn m).trans hm
  exact ⟨n + m + k, s', (turns_add hnm k).trans hk, hstands', hmono hnoticed⟩

/-! ### Whole runs -/

theorem exists_log_take (deps : LogDeps) (loggerLevel : LogLevel) (s : StderrPump)
    (line : ByteString) (prefixed : Bool) :
    ∃ calls, (s.take deps loggerLevel line prefixed).log = s.log ++ calls := by
  by_cases hpart : prefixed = true ∨ s.continuation = true
  · obtain ⟨hparts, -⟩ := parts_take deps loggerLevel s line hpart
    obtain ⟨calls, hcalls, -⟩ := hparts.log
    exact ⟨calls, hcalls⟩
  · rw [not_or] at hpart
    obtain ⟨hwhole, -⟩ :=
      whole_take deps loggerLevel s line (Bool.eq_false_of_not_eq_true hpart.2)
    rw [Bool.eq_false_of_not_eq_true hpart.1]
    exact ⟨_, hwhole.log⟩

/-- The logger's calls are never taken back. -/
theorem exists_log_turn (deps : LogDeps) (loggerLevel : LogLevel) (s : StderrPump) :
    ∃ calls, (s.turn deps loggerLevel).pump.log = s.log ++ calls := by
  unfold StderrPump.turn turnWith
  rcases s.reader.readLine with ⟨⟨line, prefixed, err⟩, reader⟩
  cases err with
  | none => exact exists_log_take deps loggerLevel { s with reader := reader } line prefixed
  | some e =>
      cases e with
      | eof => exact ⟨[], (List.append_nil _).symm⟩
      | noProgress | other code => exact ⟨_, rfl⟩

theorem exists_log_pump {s s' : StderrPump} {e : ReadError} {fuel : Nat}
    (h : pump deps loggerLevel fuel s = some (e, s')) : ∃ calls, s'.log = s.log ++ calls := by
  induction fuel generalizing s with
  | zero => cases h
  | succ fuel ih =>
      obtain ⟨calls, hcalls⟩ := exists_log_turn deps loggerLevel s
      rw [pump_succ] at h
      cases hturn : s.turn deps loggerLevel with
      | next t =>
          rw [hturn] at h hcalls
          obtain ⟨calls', hcalls'⟩ := ih h
          refine ⟨calls ++ calls', ?_⟩
          rw [hcalls', ← List.append_assoc, ← hcalls]
          rfl
      | returned e' t =>
          rw [hturn] at h hcalls
          cases h
          exact ⟨calls, hcalls⟩

/-- A turn leaves less to come. -/
theorem Turned.exists_stands {limit : Nat} {inLine : Bool} {rest : ByteString}
    {s s' : StderrPump} (h : Turned deps loggerLevel limit inLine rest s s') (hne : rest ≠ []) :
    ∃ inLine' rest', Stands limit inLine' rest' s' ∧ rest'.length < rest.length := by
  cases h with
  | line raw after hraw hrest hstands hparts hwhole hfits =>
      refine ⟨false, after, hstands, ?_⟩
      rw [hrest, List.length_append, List.length_cons]
      omega
  | part piece after hpiece hnewline hrest hstands hparts hlong hexact =>
      have hpos := List.length_pos_iff.mpr hpiece
      refine ⟨true, after, hstands, ?_⟩
      rw [hrest, List.length_append]
      omega
  | last hrest hstands hparts hwhole hfits =>
      exact ⟨false, [], hstands, List.length_pos_iff.mpr hne⟩

theorem Stands.turn_nil (deps : LogDeps) (loggerLevel : LogLevel) {limit : Nat} {inLine : Bool}
    {s : StderrPump} (h : Stands limit inLine [] s) :
    ∃ e s', s.turn deps loggerLevel = .returned e s' := by
  obtain ⟨-, hlined⟩ := h.lined
  unfold StderrPump.turn turnWith
  generalize s.reader.readLine = x at hlined
  cases hlined with
  | line hline hremaining =>
      exact absurd (h.remaining.symm.trans hremaining).symm (by simp)
  | part hne hline hremaining hcut =>
      exact absurd (List.append_eq_nil_iff.mp (h.remaining.symm.trans hremaining).symm).1 hne
  | last hne hline hremaining hremaining' =>
      exact absurd (h.remaining.symm.trans hremaining).symm hne
  | ended hremaining hremaining' => cases s.reader.source.last <;> exact ⟨_, _, rfl⟩

/-- The loop returns. -/
theorem Stands.exists_pump (deps : LogDeps) (loggerLevel : LogLevel) {limit : Nat} {inLine : Bool}
    {rest : ByteString} {s : StderrPump} (h : Stands limit inLine rest s) {fuel : Nat}
    (hfuel : rest.length < fuel) : ∃ e s', pump deps loggerLevel fuel s = some (e, s') := by
  induction fuel generalizing inLine rest s with
  | zero => omega
  | succ fuel ih =>
      by_cases hnil : rest = []
      · rw [hnil] at h
        obtain ⟨e, s', hturn⟩ := h.turn_nil deps loggerLevel
        exact ⟨e, s', by rw [pump_succ, hturn]⟩
      · obtain ⟨t, hturn, hturned⟩ := h.turn deps loggerLevel hnil
        obtain ⟨inLine', rest', hstands, hless⟩ := hturned.exists_stands hnil
        obtain ⟨e, s', hpump⟩ := ih hstands (by omega)
        exact ⟨e, s', by rw [pump_succ, hturn]; exact hpump⟩

theorem Stands.of_turns {limit : Nat} {inLine : Bool} {rest : ByteString} {s s' : StderrPump}
    (h : Stands limit inLine rest s) {n : Nat} (hturns : turns deps loggerLevel n s = some s') :
    ∃ inLine' rest', Stands limit inLine' rest' s' ∧ rest'.length + n ≤ rest.length := by
  induction n generalizing inLine rest s with
  | zero =>
      cases hturns
      exact ⟨inLine, rest, h, Nat.le_refl _⟩
  | succ n ih =>
      by_cases hnil : rest = []
      · rw [hnil] at h
        obtain ⟨e, t, hturn⟩ := h.turn_nil deps loggerLevel
        rw [turns, hturn] at hturns
        cases hturns
      · obtain ⟨t, hturn, hturned⟩ := h.turn deps loggerLevel hnil
        obtain ⟨inLine₁, rest₁, hstands, hless⟩ := hturned.exists_stands hnil
        rw [turns_succ hturn] at hturns
        obtain ⟨inLine', rest', hstands', hle⟩ := ih hstands hturns
        exact ⟨inLine', rest', hstands', by omega⟩

theorem Stands.turns_eq_of_le {limit : Nat} {inLine : Bool} {rest : ByteString}
    {s s₁ s₂ : StderrPump} (h : Stands limit inLine rest s) {n m : Nat} (hle : n ≤ m)
    (h₁ : turns deps loggerLevel n s = some s₁) (h₂ : turns deps loggerLevel m s = some s₂)
    (hsame : s₁.reader.remaining = s₂.reader.remaining) : s₁ = s₂ := by
  obtain ⟨k, rfl⟩ := Nat.exists_eq_add_of_le hle
  obtain ⟨inLine₁, rest₁, hstands, -⟩ := h.of_turns h₁
  have hmore : turns deps loggerLevel k s₁ = some s₂ := (turns_add h₁ k).symm.trans h₂
  obtain ⟨inLine₂, rest₂, hstands₂, hless⟩ := hstands.of_turns hmore
  have hlength : rest₁ = rest₂ := by
    rw [← hstands.remaining, hsame, hstands₂.remaining]
  rw [hlength] at hless
  have hzero : k = 0 := by omega
  rw [hzero] at hmore
  exact Option.some.inj hmore

/-- Each turn takes something off the stream, so the bytes that are still to come tell the state
    of the pump. -/
theorem Stands.turns_eq {limit : Nat} {inLine : Bool} {rest : ByteString} {s s₁ s₂ : StderrPump}
    (h : Stands limit inLine rest s) {n m : Nat} (h₁ : turns deps loggerLevel n s = some s₁)
    (h₂ : turns deps loggerLevel m s = some s₂)
    (hsame : s₁.reader.remaining = s₂.reader.remaining) : s₁ = s₂ := by
  rcases Nat.le_total n m with hle | hle
  · exact h.turns_eq_of_le hle h₁ h₂ hsame
  · exact (h.turns_eq_of_le hle h₂ h₁ hsame.symm).symm

/-! ### The trace in the log -/

/-- What `logStderr` begins with. -/
def StderrPump.start (pluginLogBufferSize : Int) (r : Source) : StderrPump :=
  ⟨newReaderSize r pluginLogBufferSize, false, false, [], []⟩

/-- The size of the buffer that the reader really has. -/
def bufferSize (pluginLogBufferSize : Int) : Nat :=
  (max pluginLogBufferSize minReadBufferSize).toNat

theorem stands_start (pluginLogBufferSize : Int) {r : Source} (h : r.Lively) :
    Stands (bufferSize pluginLogBufferSize) false r.rest (.start pluginLogBufferSize r) where
  sound := Reader.sound_newReaderSize r pluginLogBufferSize
  lively := h
  size := rfl
  large := by
    unfold bufferSize minReadBufferSize
    omega
  remaining := rfl
  continuation := rfl

/-- In a run that begins with `first` and returns with `final`, these are the calls of the logger
    between the turn that reads the beginning of the line and the one that reads its end. -/
def StderrLine.LoggedAs (deps : LogDeps) (loggerLevel : LogLevel) (first final : StderrPump)
    (l : StderrLine stream) (calls : List LogCall) : Prop :=
  ∃ n m s s' later,
    turns deps loggerLevel n first = some s ∧ s.reader.remaining = l.raw ++ l.rest ∧
    turns deps loggerLevel m s = some s' ∧ s'.reader.remaining = l.rest.tail ∧
    s'.log = s.log ++ calls ∧ final.log = s'.log ++ later

/-- The line fits into the buffer of the reader with its end.  A last line without one may fill the
    buffer, if the reader that has come to it gets the error together with its last bytes. -/
def StderrLine.Fits (b : Reader) (l : StderrLine stream) : Prop :=
  l.raw.length < b.size ∨
    (l.rest = [] ∧ l.raw.length = b.size ∧
      ∃ n, (b.afterLines n).remaining = l.raw ∧ (b.afterLines n).endsTogether = true)

/-- All that belongs to a stack trace fits into the buffer. -/
def TraceFits (deps : LogDeps) (b : Reader) (stream : ByteString) : Prop :=
  ∀ l : StderrLine stream, l.Plain deps → l.InTrace → l.Fits b

/-- All that belongs to a stack trace is logged as an error. -/
def TraceAtError (deps : LogDeps) (loggerLevel : LogLevel) (first final : StderrPump)
    (stream : ByteString) : Prop :=
  ∀ l : StderrLine stream, l.Plain deps → l.InTrace →
    l.LoggedAs deps loggerLevel first final [⟨.error, l.text, []⟩]

section Trace

variable {limit fuel : Nat} {first final : StderrPump} {e : ReadError}

/-- Where the pump stands at the beginning of the line, it can be seen whether the line fits. -/
theorem StderrLine.fits_iff (l : StderrLine stream) (h : Stands limit false stream first)
    {n : Nat} {s : StderrPump} (hn : turns deps loggerLevel n first = some s)
    (hs : s.reader.remaining = l.raw ++ l.rest) : l.Fits first.reader ↔ l.FitsAt limit s := by
  have hlarge : 1 < first.reader.size := by
    rw [h.size]
    exact h.large
  unfold Fits FitsAt
  rw [h.size, reader_turns hn]
  rw [reader_turns hn] at hs
  refine or_congr_right (and_congr_right fun hrest => and_congr_right fun _ => ?_)
  rw [hrest, List.append_nil] at hs
  constructor
  · rintro ⟨m, hm, htogether⟩
    have hraw : (first.reader.afterLines m).remaining ≠ [] := by
      have hne := l.ne_nil
      rw [hrest, List.append_nil] at hne
      rw [hm]
      exact hne
    rwa [← Reader.afterLines_inj h.sound h.lively hlarge (hm.trans hs.symm) hraw]
  · exact fun htogether => ⟨n, hs, htogether⟩

/-- From the beginning of the line to its calls. -/
theorem StderrLine.loggedAs (l : StderrLine stream)
    (hpump : pump deps loggerLevel fuel first = some (e, final)) {n : Nat} {s s' : StderrPump}
    (hn : turns deps loggerLevel n first = some s)
    (hstands : Stands limit false (l.raw ++ l.rest) s)
    (hpasses : Passes deps loggerLevel limit l.rest s s') {calls : List LogCall}
    (hcalls : s'.log = s.log ++ calls) : l.LoggedAs deps loggerLevel first final calls := by
  obtain ⟨m, hm⟩ := hpasses.turns
  obtain ⟨inLine, hstands', -⟩ := hpasses.stands
  obtain ⟨fuel', hpump'⟩ := pump_of_turns hpump ((turns_add hn m).trans hm)
  obtain ⟨later, hlater⟩ := exists_log_pump hpump'
  exact ⟨n, m, s, s', later, hn, hstands.remaining, hm, hstands'.remaining, hcalls, hlater⟩

/-- How a line without a tag is logged. -/
theorem Whole.log_of_plain {l : StderrLine stream} {s s' : StderrPump}
    (h : Whole deps loggerLevel l.text s s') (hlevel : loggerLevel ≠ .off) (hl : l.Plain deps) :
    s'.log = s.log ++
      [⟨if startsPanic l.text || s.inPanic then .error else .debug, l.text, []⟩] := by
  rw [h.log, skips_of_parseJSON hl.1 hlevel, plainCall, hl.1]
  dsimp only
  rw [textLevel, hl.2, if_neg Bool.false_ne_true]

/-- **Before the first line of a stack trace** nothing without a tag is logged as an error. -/
theorem StderrLine.loggedAs_of_not_inTrace (hlevel : loggerLevel ≠ .off)
    (hstands : Stands limit false stream first) (hfirst : first.inPanic = false)
    (hpump : pump deps loggerLevel fuel first = some (e, final)) (l : StderrLine stream)
    (hplain : l.Plain deps) (htrace : ¬l.InTrace) :
    ∃ calls, l.LoggedAs deps loggerLevel first final calls ∧ ∀ c ∈ calls, c.level ≠ .error := by
  rw [InTrace, not_or, not_exists] at htrace
  rw [← l.eq_stream] at hstands
  obtain ⟨n, s, hn, hstands', -, hkeep⟩ := hstands.walk deps loggerLevel l.terminated
  have hcalm : s.inPanic = false :=
    (hkeep fun l' => Bool.eq_false_of_not_eq_true (htrace.1 l')).trans hfirst
  obtain ⟨s', hpasses, hhandled⟩ := l.passes deps loggerLevel hstands'
  rcases hhandled with ⟨hwhole, -⟩ | ⟨hparts, -⟩
  · have hlog := hwhole.log_of_plain hlevel hplain
    rw [hcalm, Bool.eq_false_of_not_eq_true htrace.2] at hlog
    refine ⟨_, l.loggedAs hpump hn hstands' hpasses hlog, ?_⟩
    intro c hc
    cases List.mem_singleton.mp hc
    exact LogLevel.noConfusion
  · obtain ⟨calls, hcalls, hdebug⟩ := hparts.log
    refine ⟨calls, l.loggedAs hpump hn hstands' hpasses hcalls, ?_⟩
    intro c hc
    rw [hdebug c hc]
    exact LogLevel.noConfusion

/-- A line with an end fits if it is shorter than the buffer. -/
theorem StderrLine.Fits.length_lt {b : Reader} {l : StderrLine stream} (h : l.Fits b)
    (hrest : l.rest ≠ []) : l.raw.length < b.size :=
  h.resolve_right fun hlast => hrest hlast.1

/-- **A stack trace that fits into the buffer is logged as errors.** -/
theorem traceAtError_of_traceFits (hdeps : RefusesPanics deps) (hlevel : loggerLevel ≠ .off)
    (hstands : Stands limit false stream first)
    (hpump : pump deps loggerLevel fuel first = some (e, final))
    (hfits : TraceFits deps first.reader stream) :
    TraceAtError deps loggerLevel first final stream := by
  intro l hplain htrace
  have hshort := hfits l hplain htrace
  have hstands' := hstands
  rw [← l.eq_stream] at hstands'
  -- the pump reaches the line, and it knows that it is in a trace
  have hreach : ∃ n s, turns deps loggerLevel n first = some s ∧
      Stands limit false (l.raw ++ l.rest) s ∧ (startsPanic l.text || s.inPanic) = true := by
    rcases htrace with ⟨start, hstart⟩ | hstart
    · have hall : TraceFits deps first.reader (l.before ++ (l.raw ++ l.rest)) := by
        rw [l.eq_stream]
        exact hfits
      have htext := start.text_extend l.terminated (l.raw ++ l.rest)
      rw [← htext] at hstart
      have hline := (hall _ (StderrLine.plain_of_startsPanic hdeps hstart)
        (Or.inr hstart)).length_lt (List.append_ne_nil_of_right_ne_nil _ l.ne_nil)
      rw [hstands.size] at hline
      rw [htext] at hstart
      obtain ⟨n, s, hn, hs, hpanic⟩ :=
        hstands'.walk_trace hdeps hlevel l.terminated start hstart hline
      exact ⟨n, s, hn, hs, by rw [hpanic, Bool.or_true]⟩
    · obtain ⟨n, s, hn, hs, -, -⟩ := hstands'.walk deps loggerLevel l.terminated
      exact ⟨n, s, hn, hs, by rw [hstart, Bool.true_or]⟩
  obtain ⟨n, s, hn, hs, hpanic⟩ := hreach
  obtain ⟨s', hpasses, hhandled⟩ := l.passes deps loggerLevel hs
  rcases hhandled with ⟨hwhole, -⟩ | ⟨-, hlong⟩
  · have hlog := hwhole.log_of_plain hlevel hplain
    rw [hpanic, if_pos rfl] at hlog
    exact l.loggedAs hpump hn hs hpasses hlog
  · exact absurd ((l.fits_iff hstands hn hs.remaining).mp hshort) hlong

/-- A line that does not fit into the buffer is not. -/
theorem traceFits_of_traceAtError (hstands : Stands limit false stream first)
    (herror : TraceAtError deps loggerLevel first final stream) :
    TraceFits deps first.reader stream := by
  intro l hplain htrace
  obtain ⟨n, m, s, s', later, hn, hs, hm, hs', hcalls, -⟩ := herror l hplain htrace
  have hstands' := hstands
  rw [← l.eq_stream] at hstands'
  obtain ⟨n₁, s₁, hn₁, hstands₁, -, -⟩ := hstands'.walk deps loggerLevel l.terminated
  obtain ⟨s₂, hpasses, hhandled⟩ := l.passes deps loggerLevel hstands₁
  obtain ⟨m₂, hm₂⟩ := hpasses.turns
  obtain ⟨inLine, hstands₂, -⟩ := hpasses.stands
  -- the states at the beginning and at the end of the line are those of the run
  have hbegin : s = s₁ := hstands.turns_eq hn hn₁ (hs.trans hstands₁.remaining.symm)
  subst hbegin
  have hend : s' = s₂ := hstands₁.turns_eq hm hm₂ (hs'.trans hstands₂.remaining.symm)
  subst hend
  rcases hhandled with ⟨-, hfits⟩ | ⟨hparts, -⟩
  · exact (l.fits_iff hstands hn hs).mpr hfits
  · obtain ⟨calls, hdebug, hlevels⟩ := hparts.log
    have hsame : calls = [⟨.error, l.text, []⟩] :=
      List.append_cancel_left (hdebug.symm.trans hcalls)
    have habsurd := hlevels ⟨.error, l.text, []⟩ (by rw [hsame]; exact List.mem_singleton_self _)
    cases habsurd

end Trace

/-- **The log of a crash.**  Whatever the stream is, in whatever pieces it comes and whatever the
    size of the buffer, the pump of a logger that is not off returns, and no line without a tag
    before the first line of a stack trace is logged as an error.  From there on all such lines
    are, if and only if all of them fit into the buffer. -/
theorem traceAtError_iff (deps : LogDeps) (hdeps : RefusesPanics deps) (loggerLevel : LogLevel)
    (hlevel : loggerLevel ≠ .off) (pluginLogBufferSize : Int) (r : Source) (h : r.Lively)
    (fuel : Nat) (hfuel : r.rest.length < fuel) :
    ∃ e final, logStderr deps loggerLevel pluginLogBufferSize r fuel = some (e, final) ∧
      (∀ l : StderrLine r.rest, l.Plain deps → ¬l.InTrace → ∃ calls,
        l.LoggedAs deps loggerLevel (.start pluginLogBufferSize r) final calls ∧
          ∀ c ∈ calls, c.level ≠ .error) ∧
      (TraceAtError deps loggerLevel (.start pluginLogBufferSize r) final r.rest ↔
        TraceFits deps (newReaderSize r pluginLogBufferSize) r.rest) := by
  have hstands := stands_start pluginLogBufferSize h
  obtain ⟨e, final, hpump⟩ := hstands.exists_pump deps loggerLevel hfuel
  refine ⟨e, final, hpump, ?_, ?_, ?_⟩
  · intro l hplain htrace
    exact l.loggedAs_of_not_inTrace hlevel hstands rfl hpump hplain htrace
  · exact traceFits_of_traceAtError hstands
  · exact traceAtError_of_traceFits hdeps hlevel hstands hpump

theorem traceFits_of_length_lt (deps : LogDeps) {b : Reader} (h : stream.length < b.size) :
    TraceFits deps b stream := by
  intro l _ _
  left
  have hlength := congrArg List.length l.eq_stream
  rw [List.length_append, List.length_append] at hlength
  omega

-- a last line that just fills the buffer, with the end of the stream and before it
example : [true, false].map (fun together =>
    (logStderr plainText .info 16
      ⟨ascii "panic: 123456789", [⟨0, 15, together⟩], .eof⟩ 20).map (·.2.log)) =
    [some [⟨.error, ascii "panic: 123456789", []⟩],
      some [⟨.debug, ascii "panic: 123456789", []⟩]] := by
  decide +kernel

/-- A crash, in pieces. -/
def crash : Source :=
  ⟨ascii "ready\npanic: boom\n\ngoroutine 1 [running]:\n", [⟨2, 6, false⟩], .eof⟩

theorem traceAtError_crash :
    ∃ e final, logStderr plainText .info 64 crash 100 = some (e, final) ∧
      TraceAtError plainText .info (.start 64 crash) final crash.rest := by
  have hlively : crash.Lively := by
    intro p hp
    cases List.mem_singleton.mp hp
    decide
  obtain ⟨e, final, hlog, -, herror⟩ :=
    traceAtError_iff plainText (fun _ _ => rfl) .info LogLevel.noConfusion 64 crash hlively 100
      (by decide)
  exact ⟨e, final, hlog, herror.mpr (traceFits_of_length_lt plainText (by decide))⟩

/-- The message is longer than the buffer: the crash is logged for debugging, all of it. -/
theorem long_panic_at_debug :
    (logStderr plainText .info 16
        ⟨ascii "panic: out of memory\n\ngoroutine 1 [running]:\n", [], .eof⟩ 100).map
        (fun x => (x.1, x.2.log)) =
      some (.eof, [⟨.debug, ascii "panic: out of me", []⟩, ⟨.debug, ascii "mory", []⟩,
        ⟨.debug, [], []⟩, ⟨.debug, ascii "goroutine 1 [run", []⟩,
        ⟨.debug, ascii "ning]:", []⟩]) := by
  decide +kernel

end GoPlugin
