import GoPlugin.BufioReader
import GoPlugin.LabelledSystem
import Mathlib.Logic.Function.Basic

/-!
# Forwarding of standard output and standard error

Two `copyChan` goroutines of the plugin read one stream each and offer it, in chunks, on an
unbuffered channel.  `StreamStdio` takes the chunks from both channels and sends them to the host
in one message object that it uses again and again.  `grpcStdioClient.Run` receives them and
writes each to the writer of its channel.

Nothing is lost on the way and nothing changes places: what was written, what is under way and
what is still to be read make up the stream, at every moment.
-/

namespace GoPlugin

open Bufio ByteString LabelledSystem

def grpcStdioBuffer : Nat := 1024

/-- `StdioData_Channel`. -/
inductive StdioChannel where
  | invalid | stdout | stderr
deriving DecidableEq, Repr

structure StdioData where
  channel : StdioChannel
  data : ByteString
deriving DecidableEq, Repr

/-- A message as `StreamStdio` sends it. -/
structure StdioData.Proper (m : StdioData) : Prop where
  channel : m.channel ≠ .invalid
  ne_nil : m.data ≠ []
  length : m.data.length ≤ grpcStdioBuffer

/-- The two streams of the plugin. -/
inductive StdStream where
  | out | err
deriving DecidableEq, Repr

def StdStream.channel : StdStream → StdioChannel
  | .out => .stdout
  | .err => .stderr

theorem StdStream.channel_inj {c c' : StdStream} : c.channel = c'.channel ↔ c = c' := by
  cases c <;> cases c' <;> simp [StdStream.channel]

/-- The bytes of a message for one stream. -/
def StdioData.bytesFor (m : StdioData) (c : StdStream) : ByteString :=
  if m.channel = c.channel then m.data else []

/-- Where a `copyChan` goroutine stands. -/
inductive CopyPc where
  | reading
  | sending (data : ByteString) (err : Option ReadError)   -- in `dst <- data[:n]`
  | returned
deriving DecidableEq, Repr

/-- `copyChan` where it has something to send, and after that. -/
def CopyPc.next (data : ByteString) (err : Option ReadError) : CopyPc :=
  if data ≠ [] then .sending data err
  else if err.isSome then .returned else .reading

/-- What was read and is not yet sent. -/
def CopyPc.pending : CopyPc → ByteString
  | .sending data _ => data
  | _ => []

structure CopyChan where
  bufsrc : Reader
  pc : CopyPc
deriving DecidableEq, Repr

/-- Where the `StreamStdio` call stands. -/
inductive StreamPc where
  | selecting
  | sending                 -- in `srv.Send`
  | returned
  | failed                  -- returned the error of `srv.Send`
deriving DecidableEq, Repr

/-- The goroutines, the messages under way on the gRPC stream, and what was written to the
    host's writers. -/
structure Stdio where
  copiers : StdStream → CopyChan
  stream : StreamPc
  data : StdioData          -- the message object of `StreamStdio`
  wire : List StdioData
  running : Bool            -- `Run` has not returned
  written : StdStream → ByteString

namespace Stdio

def init (sources : StdStream → Source) : Stdio where
  copiers c := ⟨newReader (sources c), .reading⟩
  stream := .selecting
  data := ⟨.invalid, []⟩
  wire := []
  running := true
  written _ := []

inductive Act where
  | read (c : StdStream)       -- a round of `copyChan`, up to its send
  | select (c : StdStream)     -- `StreamStdio` receives from the channel
  | done                       -- the context of the stream is done
  | send (ok : Bool)
  | recv
  | recvError
deriving DecidableEq, Repr

/-- `Run` writes a message; one of an unknown channel is dropped. -/
def write (written : StdStream → ByteString) (m : StdioData) : StdStream → ByteString :=
  match m.channel with
  | .stdout => Function.update written .out (written .out ++ m.data)
  | .stderr => Function.update written .err (written .err ++ m.data)
  | .invalid => written

def step (s : Stdio) : Act → Option Stdio
  | .read c =>
      match (s.copiers c).pc, (s.copiers c).bufsrc.read grpcStdioBuffer with
      | .reading, ((data, err), bufsrc) =>
          some { s with
            copiers := Function.update s.copiers c ⟨bufsrc, CopyPc.next data err⟩ }
      | _, _ => none
  | .select c =>
      match s.stream, (s.copiers c).pc with
      | .selecting, .sending data err =>
          some { s with
            copiers := Function.update s.copiers c ⟨(s.copiers c).bufsrc, CopyPc.next [] err⟩
            data := ⟨c.channel, data⟩
            stream := if data = [] then .selecting else .sending }
      | _, _ => none
  | .done =>
      match s.stream with
      | .selecting => some { s with stream := .returned }
      | _ => none
  | .send ok =>
      match s.stream with
      | .sending =>
          if ok then some { s with wire := s.wire ++ [s.data], stream := .selecting }
          else some { s with stream := .failed }
      | _ => none
  | .recv =>
      match s.running, s.wire with
      | true, m :: wire => some { s with wire := wire, written := write s.written m }
      | _, _ => none
  | .recvError => if s.running then some { s with running := false } else none

/-! ### What one step can do -/

inductive Move (s : Stdio) : Act → Stdio → Prop where
  | read {c data err bufsrc} (hpc : (s.copiers c).pc = .reading)
      (hread : (s.copiers c).bufsrc.read grpcStdioBuffer = ((data, err), bufsrc)) :
      Move s (.read c)
        { s with copiers := Function.update s.copiers c ⟨bufsrc, CopyPc.next data err⟩ }
  | select {c data err} (hstream : s.stream = .selecting)
      (hpc : (s.copiers c).pc = .sending data err) :
      Move s (.select c)
        { s with
          copiers := Function.update s.copiers c ⟨(s.copiers c).bufsrc, CopyPc.next [] err⟩
          data := ⟨c.channel, data⟩
          stream := if data = [] then .selecting else .sending }
  | done (hstream : s.stream = .selecting) : Move s .done { s with stream := .returned }
  | send (hstream : s.stream = .sending) :
      Move s (.send true) { s with wire := s.wire ++ [s.data], stream := .selecting }
  | fail (hstream : s.stream = .sending) : Move s (.send false) { s with stream := .failed }
  | recv {m wire} (hwire : s.wire = m :: wire) :
      Move s .recv { s with wire := wire, written := write s.written m }
  | recvError : Move s .recvError { s with running := false }

theorem move_of_step {s s' : Stdio} {a : Act} (h : s.step a = some s') : Move s a s' := by
  cases a with
  | read c =>
      unfold step at h
      dsimp only at h
      split at h
      · next hpc hread =>
          cases h
          exact .read hpc hread
      · cases h
  | select c =>
      unfold step at h
      dsimp only at h
      split at h
      · next hstream hpc =>
          cases h
          exact .select hstream hpc
      · cases h
  | done =>
      unfold step at h
      dsimp only at h
      split at h
      · next hstream =>
          cases h
          exact .done hstream
      · cases h
  | send ok =>
      unfold step at h
      dsimp only at h
      split at h
      · next hstream =>
          cases ok with
          | true =>
              cases h
              exact .send hstream
          | false =>
              cases h
              exact .fail hstream
      · cases h
  | recv =>
      unfold step at h
      dsimp only at h
      split at h
      · next hrunning hwire =>
          cases h
          exact .recv hwire
      · cases h
  | recvError =>
      unfold step at h
      dsimp only at h
      split at h
      · cases h
        exact .recvError
      · cases h

/-! ### Conservation -/

/-- What `StreamStdio` has received and not sent. -/
def held (s : Stdio) (c : StdStream) : ByteString :=
  match s.stream with
  | .sending | .failed => s.data.bytesFor c
  | _ => []

/-- The bytes of a stream, from those that were written to those that were not yet read. -/
def total (s : Stdio) (c : StdStream) : ByteString :=
  s.written c ++ (s.wire.flatMap (·.bytesFor c) ++ (s.held c ++
    ((s.copiers c).pc.pending ++ (s.copiers c).bufsrc.remaining)))

/-- A `copyChan` goroutine sends chunks of the right size, and it is at the end of the stream when
    it returns. -/
structure Sane (x : CopyChan) : Prop where
  sound : x.bufsrc.Sound
  size : 0 < x.bufsrc.size
  sending : ∀ data err, x.pc = .sending data err → data ≠ [] ∧ data.length ≤ grpcStdioBuffer
  ended : ∀ data e, x.pc = .sending data (some e) → x.bufsrc.remaining = []
  returned : x.pc = .returned → x.bufsrc.remaining = []

structure Conserves (streams : StdStream → ByteString) (s : Stdio) : Prop where
  balance : ∀ c, s.total c = streams c
  copiers : ∀ c, Sane (s.copiers c)
  data : s.stream = .sending → s.data.Proper
  wire : ∀ m ∈ s.wire, m.Proper

theorem pending_reading : CopyPc.reading.pending = [] := rfl

theorem pending_sending (data : ByteString) (err : Option ReadError) :
    (CopyPc.sending data err).pending = data := rfl

theorem pending_next (data : ByteString) (err : Option ReadError) :
    (CopyPc.next data err).pending = data := by
  unfold CopyPc.next
  by_cases hdata : data = []
  · rw [if_neg (not_not.mpr hdata), hdata]
    split <;> rfl
  · rw [if_pos hdata]
    rfl

/-- A round of `copyChan` that has read. -/
theorem Sane.read {x : CopyChan} (hx : Sane x) {data : ByteString} {err : Option ReadError}
    {bufsrc : Reader} (hread : x.bufsrc.read grpcStdioBuffer = ((data, err), bufsrc)) :
    data ++ bufsrc.remaining = x.bufsrc.remaining ∧ Sane ⟨bufsrc, .next data err⟩ := by
  have hreads := hx.sound.reads_read (n := grpcStdioBuffer) (by decide) hx.size
  rw [hread] at hreads
  refine ⟨hreads.remaining, hreads.sound, hreads.size ▸ hx.size, ?_, ?_, ?_⟩
  · intro data' err' hpc
    dsimp only [CopyPc.next] at hpc
    split at hpc
    · next hdata =>
        cases hpc
        exact ⟨hdata, hreads.length⟩
    · split at hpc <;> cases hpc
  · intro data' e hpc
    dsimp only [CopyPc.next] at hpc
    split at hpc
    · cases hpc
      exact hreads.err e rfl
    · split at hpc <;> cases hpc
  · intro hpc
    dsimp only [CopyPc.next] at hpc
    split at hpc
    · cases hpc
    · split at hpc
      · next herr =>
          obtain ⟨e, he⟩ := Option.isSome_iff_exists.mp herr
          exact hreads.err e he
      · cases hpc

/-- A round of `copyChan` whose chunk was taken. -/
theorem Sane.sent {x : CopyChan} (hx : Sane x) {data : ByteString} {err : Option ReadError}
    (hpc : x.pc = .sending data err) : Sane ⟨x.bufsrc, .next [] err⟩ := by
  cases err with
  | none => exact ⟨hx.sound, hx.size, (by intro _ _ h; cases h), (by intro _ _ h; cases h),
      (by intro h; cases h)⟩
  | some e => exact ⟨hx.sound, hx.size, (by intro _ _ h; cases h), (by intro _ _ h; cases h),
      fun _ => hx.ended data e hpc⟩

theorem write_apply (written : StdStream → ByteString) (m : StdioData) (c : StdStream) :
    write written m c = written c ++ m.bytesFor c := by
  obtain ⟨channel, data⟩ := m
  cases channel <;> cases c <;> simp [write, StdioData.bytesFor, StdStream.channel]

theorem bytesFor_channel (c c' : StdStream) (data : ByteString) :
    (⟨c.channel, data⟩ : StdioData).bytesFor c' = if c = c' then data else [] := by
  simp only [StdioData.bytesFor, StdStream.channel_inj]

/-- One goroutine changes; the others and what they hold stay. -/
theorem forall_sane_update {s : Stdio} (h : ∀ c, Sane (s.copiers c)) {c : StdStream}
    {x : CopyChan} (hx : Sane x) : ∀ c', Sane (Function.update s.copiers c x c') := by
  intro c'
  by_cases hc : c' = c
  · rw [hc, Function.update_self]
    exact hx
  · rw [Function.update_of_ne hc]
    exact h c'

theorem Conserves.move {streams : StdStream → ByteString} {s s' : Stdio} {a : Act}
    (h : Conserves streams s) (hmove : Move s a s') : Conserves streams s' := by
  cases hmove with
  | @read c data err bufsrc hpc hread =>
      obtain ⟨hremaining, hsane⟩ := (h.copiers c).read hread
      refine ⟨?_, forall_sane_update h.copiers hsane, h.data, h.wire⟩
      intro c'
      rw [← h.balance c']
      by_cases hc : c' = c
      · subst hc
        simp only [total, held, Function.update_self, pending_next, hremaining, hpc,
          pending_reading, List.nil_append]
      · simp only [total, held, Function.update_of_ne hc]
  | @select c data err hstream hpc =>
      obtain ⟨hne, hlength⟩ := (h.copiers c).sending data err hpc
      refine ⟨?_, forall_sane_update h.copiers ((h.copiers c).sent hpc), ?_, h.wire⟩
      · intro c'
        rw [← h.balance c']
        by_cases hc : c' = c
        · subst hc
          simp only [total, held, Function.update_self, pending_next, hpc, pending_sending,
            List.nil_append, if_neg hne, bytesFor_channel, if_true, hstream]
        · have hc' : ¬c = c' := fun heq => hc heq.symm
          simp only [total, held, Function.update_of_ne hc, if_neg hne, bytesFor_channel,
            if_neg hc', hstream]
      · intro _
        refine ⟨?_, hne, hlength⟩
        cases c <;> exact fun heq => by cases heq
  | done hstream =>
      refine ⟨?_, h.copiers, (by intro h; cases h), h.wire⟩
      intro c
      rw [← h.balance c]
      simp only [total, held, hstream]
  | send hstream =>
      refine ⟨?_, h.copiers, (by intro h; cases h), ?_⟩
      · intro c
        rw [← h.balance c]
        simp only [total, held, hstream, List.flatMap_append, List.flatMap_cons,
          List.flatMap_nil, List.append_nil, List.append_assoc, List.nil_append]
      · intro m hm
        rcases List.mem_append.mp hm with hm | hm
        · exact h.wire m hm
        · rw [List.mem_singleton.mp hm]
          exact h.data hstream
  | fail hstream =>
      refine ⟨?_, h.copiers, (by intro h; cases h), h.wire⟩
      intro c
      rw [← h.balance c]
      simp only [total, held, hstream]
  | @recv m wire hwire =>
      refine ⟨?_, h.copiers, h.data, ?_⟩
      · intro c
        rw [← h.balance c]
        simp only [total, held, write_apply, hwire, List.flatMap_cons, List.append_assoc]
      · intro m' hm'
        exact h.wire m' (by rw [hwire]; exact List.mem_cons_of_mem m hm')
  | recvError => exact ⟨h.balance, h.copiers, h.data, h.wire⟩

theorem conserves_init (sources : StdStream → Source) :
    Conserves (fun c => (sources c).rest) (init sources) where
  balance c := rfl
  copiers c := ⟨Reader.sound_newReaderSize _ _, Nat.lt_of_lt_of_eq (by decide : 0 < 4096)
    (size_newReader (sources c)).symm, (by intro _ _ h; cases h), (by intro _ _ h; cases h),
    (by intro h; cases h)⟩
  data h := by cases h
  wire := List.forall_mem_nil _

/-- Both `copyChan` goroutines have returned, and nothing is under way. -/
def Drained (s : Stdio) : Prop :=
  (∀ c, (s.copiers c).pc = .returned) ∧ (s.stream = .selecting ∨ s.stream = .returned) ∧
    s.wire = []

/-- **Stdio forwarding.**  In every run, what was written to either writer is the beginning of the
    stream; every message has some bytes and every chunk at most 1024; and when nothing is under
    way any more, the whole of both streams was written. -/
theorem stdio_forwards (sources : StdStream → Source) (as : List Act) {s : Stdio}
    (h : exec step (init sources) as = some s) :
    (∀ c, s.written c <+: (sources c).rest) ∧ (∀ m ∈ s.wire, m.Proper) ∧
      (∀ c data err, (s.copiers c).pc = .sending data err → data.length ≤ grpcStdioBuffer) ∧
      (Drained s → ∀ c, s.written c = (sources c).rest) := by
  have hs : Conserves (fun c => (sources c).rest) s :=
    exec_invariant_of_step (fun t a t' ht hstep => ht.move (move_of_step hstep))
      (conserves_init sources) h
  refine ⟨?_, hs.wire, ?_, ?_⟩
  · intro c
    exact ⟨_, hs.balance c⟩
  · intro c data err hpc
    exact ((hs.copiers c).sending data err hpc).2
  · rintro ⟨hreturned, hstream, hwire⟩ c
    have htotal := hs.balance c
    have hheld : s.held c = [] := by
      unfold held
      rcases hstream with hstream | hstream <;> rw [hstream]
    have hpending : (s.copiers c).pc.pending = [] := by rw [hreturned c]; rfl
    rw [total, hwire, hheld, hpending, (hs.copiers c).returned (hreturned c)] at htotal
    simpa using htotal

/-- One byte after an idle read, then the rest; and everything together with an error. -/
def twoSources : StdStream → Source
  | .out => ⟨ascii "hi", [⟨1, 0, false⟩], .eof⟩
  | .err => ⟨ascii "oops", [⟨0, 9, true⟩], .other 1⟩

def interleaved : List Act :=
  [.read .err, .select .err, .read .out, .send true, .read .out, .select .out, .read .err,
    .read .out, .send true, .recv, .select .out, .send true, .read .out, .recv, .recv]

theorem stdio_forwards_interleaved :
    ∃ s, exec step (init twoSources) interleaved = some s ∧
      s.written .out = ascii "hi" ∧ s.written .err = ascii "oops" := by
  have hdrained := (stdio_forwards twoSources interleaved rfl).2.2.2
    ⟨fun c => by cases c <;> rfl, Or.inl rfl, rfl⟩
  exact ⟨_, rfl, hdrained .out, hdrained .err⟩

end Stdio

end GoPlugin
