import GoPlugin.Shares
import GoPlugin.StdioForwarding
import GoPlugin.Tally

/-!
# Several hosts on the output of a gRPC plugin

`StdioForwarding` has one `StreamStdio` call.  A plugin that hosts reattach to has one for each of
them, and old ones whose host is gone: all of them receive from the two channels of the same
`copyChan` goroutines.  A stream may fail, and a host's writer may fail or panic in the middle of a
message; `Run` drops the rest of the message and goes on after an error, and ends after a panic.
-/

namespace GoPlugin

open Bufio ByteString LabelledSystem Shares Tally
open scoped List

/-- A `StreamStdio` call, the messages on its way, and `Run` of the host that made it. -/
structure StdioCall where
  stream : StreamPc
  data : StdioData          -- the message object of `StreamStdio`
  wire : List StdioData
  running : Bool            -- `Run` has not returned
  written : StdStream → ByteString

namespace StdioCall

def init : StdioCall where
  stream := .selecting
  data := ⟨.invalid, []⟩
  wire := []
  running := true
  written _ := []

inductive Act where
  | done                                  -- the context of the stream is done
  | send (ok : Bool)
  | recv                                  -- `Run` receives a message and writes it
  | recvTorn (n : Nat) (panics : Bool)    -- it writes `n` bytes, and the writer fails
  | recvError
deriving DecidableEq, Repr

/-- `StreamStdio` receives a chunk from a channel. -/
def receive (x : StdioCall) (c : StdStream) (chunk : ByteString) : StdioCall :=
  { x with
    data := ⟨c.channel, chunk⟩
    stream := if chunk = [] then .selecting else .sending }

def step (x : StdioCall) : Act → Option StdioCall
  | .done => if x.stream = .selecting then some { x with stream := .returned } else none
  | .send ok =>
      if x.stream = .sending then
        if ok then some { x with wire := x.wire ++ [x.data], stream := .selecting }
        else some { x with stream := .failed }
      else none
  | .recv =>
      match x.running, x.wire with
      | true, m :: wire => some { x with wire := wire, written := Stdio.write x.written m }
      | _, _ => none
  | .recvTorn n panics =>
      match x.running, x.wire with
      | true, m :: wire =>
          if n ≤ m.data.length then
            some { x with
              wire := wire
              running := !panics
              written := Stdio.write x.written { m with data := m.data.take n } }
          else none
      | _, _ => none
  | .recvError => if x.running then some { x with running := false } else none

/-! ### What a call has received -/

/-- What `StreamStdio` has received and not sent, or not been able to send. -/
def held (x : StdioCall) (c : StdStream) : ByteString :=
  match x.stream with
  | .sending | .failed => x.data.bytesFor c
  | .selecting | .returned => []

/-- What was received and not written. -/
def underway (x : StdioCall) (c : StdStream) : ByteString :=
  x.wire.flatMap (·.bytesFor c) ++ x.held c

def total (x : StdioCall) (c : StdStream) : ByteString := x.written c ++ x.underway c

theorem total_receive {x : StdioCall} (hstream : x.stream = .selecting) {c : StdStream}
    {chunk : ByteString} (hchunk : chunk ≠ []) (c' : StdStream) :
    (x.receive c chunk).total c' = x.total c' ++ if c' = c then chunk else [] := by
  have hheld : x.held c' = [] := by rw [held, hstream]
  have hreceived : (x.receive c chunk).held c' = if c = c' then chunk else [] := by
    rw [receive, if_neg hchunk, held]
    exact Stdio.bytesFor_channel c c' chunk
  unfold total underway
  rw [hreceived, hheld]
  simp only [receive, List.append_nil, List.append_assoc, eq_comm]

/-- A part of a message is a part of its bytes. -/
theorem bytesFor_take_sublist (m : StdioData) (n : Nat) (c : StdStream) :
    ({ m with data := m.data.take n } : StdioData).bytesFor c <+ m.bytesFor c := by
  unfold StdioData.bytesFor
  by_cases hc : m.channel = c.channel
  · rw [if_pos hc, if_pos hc]
    exact List.take_sublist n m.data
  · rw [if_neg hc, if_neg hc]

/-- The writer did not take the whole message. -/
def Act.torn : Act → Bool
  | .recvTorn _ _ => true
  | _ => false

/-- Nothing comes from elsewhere, and only a torn write loses something. -/
theorem total_step {x x' : StdioCall} {a : Act} (h : x.step a = some x') (c : StdStream) :
    x'.total c <+ x.total c ∧ (a.torn = false → x'.total c = x.total c) := by
  have hsame : ∀ {y : StdioCall}, y.total c = x.total c → x' = y →
      x'.total c <+ x.total c ∧ (a.torn = false → x'.total c = x.total c) := by
    intro y hy hx'
    rw [hx', hy]
    exact ⟨List.Sublist.refl _, fun _ => rfl⟩
  cases a with
  | done =>
      simp only [step] at h
      split at h
      · next hstream =>
          refine hsame ?_ (Option.some.inj h).symm
          simp only [total, underway, held, hstream]
      · cases h
  | send ok =>
      simp only [step] at h
      split at h
      · next hstream =>
          cases ok with
          | true =>
              refine hsame ?_ (Option.some.inj h).symm
              simp [total, underway, held, hstream]
          | false =>
              refine hsame ?_ (Option.some.inj h).symm
              simp only [total, underway, held, hstream]
      · cases h
  | recv =>
      simp only [step] at h
      split at h
      · next m wire hrunning hwire =>
          refine hsame ?_ (Option.some.inj h).symm
          simp only [total, underway, held, Stdio.write_apply, hwire, List.flatMap_cons,
            List.append_assoc]
      · cases h
  | recvTorn n panics =>
      refine ⟨?_, fun htorn => (by cases htorn)⟩
      simp only [step] at h
      split at h
      · next m wire hrunning hwire =>
          split at h
          · cases h
            simp only [total, underway, held, Stdio.write_apply, hwire, List.flatMap_cons,
              List.append_assoc]
            apply List.Sublist.append_left
            exact (bytesFor_take_sublist m n c).append_right _
          · cases h
      · cases h
  | recvError =>
      simp only [step] at h
      split at h
      · refine hsame ?_ (Option.some.inj h).symm
        rfl
      · cases h

end StdioCall

/-! ### All calls -/

/-- The `copyChan` goroutines and the `StreamStdio` calls.  `chunks` records which call received
    which chunk. -/
structure StdioServer where
  copiers : StdStream → CopyChan
  calls : List StdioCall
  chunks : StdStream → List (Nat × ByteString)

namespace StdioServer

/-- `newGRPCStdioServer`. -/
def init (sources : StdStream → Source) : StdioServer where
  copiers c := ⟨newReader (sources c), .reading⟩
  calls := []
  chunks _ := []

inductive Act where
  | read (c : StdStream)                   -- a round of `copyChan`, up to its send
  | connect                                -- a host calls `StreamStdio`
  | select (i : Nat) (c : StdStream)       -- the `i`-th call receives from a channel
  | call (i : Nat) (a : StdioCall.Act)
deriving DecidableEq, Repr

def step (s : StdioServer) : Act → Option StdioServer
  | .read c =>
      match (s.copiers c).pc, (s.copiers c).bufsrc.read grpcStdioBuffer with
      | .reading, ((data, err), bufsrc) =>
          some { s with
            copiers := Function.update s.copiers c ⟨bufsrc, CopyPc.next data err⟩ }
      | _, _ => none
  | .connect => some { s with calls := s.calls ++ [.init] }
  | .select i c =>
      match s.calls[i]?, (s.copiers c).pc with
      | some x, .sending data err =>
          if x.stream = .selecting then
            some
              { copiers := Function.update s.copiers c ⟨(s.copiers c).bufsrc, CopyPc.next [] err⟩
                calls := s.calls.set i (x.receive c data)
                chunks := give s.chunks c i data }
          else none
      | _, _ => none
  | .call i a =>
      (s.calls[i]?).bind fun x => (x.step a).map fun x' => { s with calls := s.calls.set i x' }

/-- What can happen in a step. -/
inductive Next (s : StdioServer) : Act → StdioServer → Prop where
  | read {c data err bufsrc} (hpc : (s.copiers c).pc = .reading)
      (hread : (s.copiers c).bufsrc.read grpcStdioBuffer = ((data, err), bufsrc)) :
      Next s (.read c)
        { s with copiers := Function.update s.copiers c ⟨bufsrc, CopyPc.next data err⟩ }
  | connect : Next s .connect { s with calls := s.calls ++ [.init] }
  | select {i c x data err} (hi : s.calls[i]? = some x)
      (hpc : (s.copiers c).pc = .sending data err) (hstream : x.stream = .selecting) :
      Next s (.select i c)
        { copiers := Function.update s.copiers c ⟨(s.copiers c).bufsrc, CopyPc.next [] err⟩
          calls := s.calls.set i (x.receive c data)
          chunks := give s.chunks c i data }
  | call {i a x x'} (hi : s.calls[i]? = some x) (hx : x.step a = some x') :
      Next s (.call i a) { s with calls := s.calls.set i x' }

theorem next_of_step {s s' : StdioServer} {a : Act} (h : s.step a = some s') : Next s a s' := by
  cases a with
  | read c =>
      simp only [step] at h
      split at h
      · next hpc hread =>
          cases h
          exact .read hpc hread
      · cases h
  | connect =>
      cases h
      exact .connect
  | select i c =>
      simp only [step] at h
      split at h
      · next hi hpc =>
          split at h
          · next hstream =>
              cases h
              exact .select hi hpc hstream
          · cases h
      · cases h
  | call i a =>
      obtain ⟨x, hi, h⟩ := Option.bind_eq_some_iff.mp h
      obtain ⟨x', hx, rfl⟩ := Option.map_eq_some_iff.mp h
      exact .call hi hx

/-! ### One call -/

/-- The action where there is one call. -/
def actOf : Stdio.Act → Act
  | .read c => .read c
  | .select c => .select 0 c
  | .done => .call 0 .done
  | .send ok => .call 0 (.send ok)
  | .recv => .call 0 .recv
  | .recvError => .call 0 .recvError

/-- The server whose only call is the one of `s`. -/
def ofStdio (s : Stdio) (chunks : StdStream → List (Nat × ByteString)) : StdioServer where
  copiers := s.copiers
  calls := [⟨s.stream, s.data, s.wire, s.running, s.written⟩]
  chunks := chunks

theorem step_ofStdio {s s' : Stdio} {a : Stdio.Act} (h : s.step a = some s')
    (chunks : StdStream → List (Nat × ByteString)) :
    ∃ chunks', (ofStdio s chunks).step (actOf a) = some (ofStdio s' chunks') := by
  cases a with
  | read c =>
      simp only [Stdio.step] at h
      split at h
      · next hpc hread =>
          cases h
          refine ⟨chunks, ?_⟩
          simp only [actOf, ofStdio, StdioServer.step, hpc, hread]
      · cases h
  | select c =>
      simp only [Stdio.step] at h
      split at h
      · next data err hstream hpc =>
          cases h
          refine ⟨give chunks c 0 data, ?_⟩
          simp [actOf, ofStdio, StdioServer.step, StdioCall.receive, hpc, hstream]
      · cases h
  | done =>
      simp only [Stdio.step] at h
      split at h
      · next hstream =>
          cases h
          refine ⟨chunks, ?_⟩
          simp [actOf, ofStdio, StdioServer.step, StdioCall.step, hstream]
      · cases h
  | send ok =>
      simp only [Stdio.step] at h
      split at h
      · next hstream =>
          refine ⟨chunks, ?_⟩
          cases ok with
          | true =>
              cases h
              simp [actOf, ofStdio, StdioServer.step, StdioCall.step, hstream]
          | false =>
              cases h
              simp [actOf, ofStdio, StdioServer.step, StdioCall.step, hstream]
      · cases h
  | recv =>
      simp only [Stdio.step] at h
      split at h
      · next hrunning hwire =>
          cases h
          refine ⟨chunks, ?_⟩
          simp [actOf, ofStdio, StdioServer.step, StdioCall.step, hrunning, hwire]
      · cases h
  | recvError =>
      simp only [Stdio.step] at h
      split at h
      · next hrunning =>
          cases h
          refine ⟨chunks, ?_⟩
          simp [actOf, ofStdio, StdioServer.step, StdioCall.step, hrunning]
      · cases h

theorem exec_ofStdio {run : List Stdio.Act} {s s' : Stdio}
    (hrun : exec Stdio.step s run = some s') (chunks : StdStream → List (Nat × ByteString)) :
    ∃ chunks', exec step (ofStdio s chunks) (run.map actOf) = some (ofStdio s' chunks') := by
  induction run generalizing s chunks with
  | nil =>
      cases hrun
      exact ⟨chunks, rfl⟩
  | cons a run ih =>
      obtain ⟨t, ht, hrest⟩ := exec_cons_eq_some.mp hrun
      obtain ⟨chunks₁, hstep⟩ := step_ofStdio ht chunks
      obtain ⟨chunks', hrun'⟩ := ih hrest chunks₁
      exact ⟨chunks', exec_cons_eq_some.mpr ⟨_, hstep, hrun'⟩⟩

/-- Every run with one host is a run here, in which a host connects first. -/
theorem exec_of_stdio (sources : StdStream → Source) (run : List Stdio.Act) {s : Stdio}
    (hrun : exec Stdio.step (Stdio.init sources) run = some s) :
    ∃ chunks, exec step (init sources) (.connect :: run.map actOf) = some (ofStdio s chunks) :=
  exec_ofStdio hrun fun _ => []

/-! ### Division -/

/-- What no call has received yet. -/
def ahead (s : StdioServer) (c : StdStream) : ByteString :=
  (s.copiers c).pc.pending ++ (s.copiers c).bufsrc.remaining

/-- Every chunk went to one call.  A call has its share, but for what the writers in `torn` have
    not taken. -/
structure Divided (streams : StdStream → ByteString) (torn : Nat → Prop) (s : StdioServer) :
    Prop where
  balance : ∀ c, ((s.chunks c).map Prod.snd).flatten ++ s.ahead c = streams c
  sane : ∀ c, Stdio.Sane (s.copiers c)
  chunks : ∀ c, ∀ x ∈ s.chunks c,
    x.1 < s.calls.length ∧ x.2 ≠ [] ∧ x.2.length ≤ grpcStdioBuffer
  calls : ∀ (i : Nat) (x : StdioCall), s.calls[i]? = some x → ∀ c,
    x.total c <+ share (s.chunks c) i ∧ (¬torn i → x.total c = share (s.chunks c) i)

theorem divided_init (sources : StdStream → Source) (torn : Nat → Prop) :
    Divided (fun c => (sources c).rest) torn (init sources) where
  balance _ := rfl
  sane := (Stdio.conserves_init sources).copiers
  chunks c x hx := by cases hx
  calls i x hi := by
    simp [init] at hi

/-- A torn write only happens in a call of `torn`. -/
def Permits (torn : Nat → Prop) : Act → Prop
  | .call i a => a.torn = true → torn i
  | _ => True

section

variable {streams : StdStream → ByteString} {torn : Nat → Prop} {s s' : StdioServer}

theorem Divided.read (h : Divided streams torn s) {c : StdStream} {data : ByteString}
    {err : Option ReadError} {bufsrc : Reader} (hpc : (s.copiers c).pc = .reading)
    (hread : (s.copiers c).bufsrc.read grpcStdioBuffer = ((data, err), bufsrc)) :
    Divided streams torn
      { s with copiers := Function.update s.copiers c ⟨bufsrc, CopyPc.next data err⟩ } := by
  obtain ⟨hremaining, hsane⟩ := (h.sane c).read hread
  refine ⟨?_, ?_, h.chunks, h.calls⟩
  · intro c'
    rw [← h.balance c']
    by_cases hc : c' = c
    · subst hc
      simp only [ahead, Function.update_self, Stdio.pending_next, hremaining, hpc,
        Stdio.pending_reading, List.nil_append]
    · simp only [ahead, Function.update_of_ne hc]
  · apply (Function.forall_update_iff s.copiers fun _ x => Stdio.Sane x).mpr
    exact ⟨hsane, fun c' _ => h.sane c'⟩

theorem Divided.connect (h : Divided streams torn s) :
    Divided streams torn { s with calls := s.calls ++ [.init] } := by
  refine ⟨h.balance, h.sane, ?_, ?_⟩
  · intro c x hx
    obtain ⟨hlt, hchunk⟩ := h.chunks c x hx
    refine ⟨?_, hchunk⟩
    rw [List.length_append]
    exact Nat.lt_add_right _ hlt
  · intro i x hi c
    rcases getElem?_concat_cases hi with hold | ⟨rfl, rfl⟩
    · exact h.calls i x hold c
    · -- no chunk was for this call so far
      have hnil : share (s.chunks c) s.calls.length = [] :=
        share_eq_nil fun x hx => Nat.ne_of_lt (h.chunks c x hx).1
      rw [hnil]
      exact ⟨List.Sublist.refl _, fun _ => rfl⟩

theorem Divided.select (h : Divided streams torn s) {i : Nat} {c : StdStream} {x : StdioCall}
    {data : ByteString} {err : Option ReadError} (hi : s.calls[i]? = some x)
    (hpc : (s.copiers c).pc = .sending data err) (hstream : x.stream = .selecting) :
    Divided streams torn
      { copiers := Function.update s.copiers c ⟨(s.copiers c).bufsrc, CopyPc.next [] err⟩
        calls := s.calls.set i (x.receive c data)
        chunks := give s.chunks c i data } := by
  obtain ⟨hne, hlength⟩ := (h.sane c).sending data err hpc
  refine ⟨?_, ?_, ?_, ?_⟩
  · intro c'
    rw [← h.balance c', flatten_give]
    by_cases hc : c' = c
    · subst hc
      simp only [ahead, Function.update_self, Stdio.pending_next, hpc, Stdio.pending_sending,
        List.nil_append, if_true, List.append_assoc]
    · simp only [ahead, Function.update_of_ne hc, if_neg hc, List.append_nil]
  · apply (Function.forall_update_iff s.copiers fun _ x => Stdio.Sane x).mpr
    exact ⟨(h.sane c).sent hpc, fun c' _ => h.sane c'⟩
  · intro c' y hy
    rw [List.length_set]
    rcases mem_give _ _ _ _ _ hy with hold | rfl
    · exact h.chunks c' y hold
    · exact ⟨(List.getElem?_eq_some_iff.mp hi).1, hne, hlength⟩
  · intro j y hj c'
    rw [share_give]
    rcases getElem?_set_cases hj with ⟨rfl, rfl⟩ | ⟨hji, hold⟩
    · obtain ⟨hsub, hwhole⟩ := h.calls i x hi c'
      rw [StdioCall.total_receive hstream hne]
      simp only [and_true]
      refine ⟨hsub.append_right _, fun huntorn => ?_⟩
      rw [hwhole huntorn]
    · rw [if_neg fun heq => hji heq.2.symm, List.append_nil]
      exact h.calls j y hold c'

theorem Divided.call (h : Divided streams torn s) {i : Nat} {a : StdioCall.Act}
    {x x' : StdioCall} (hi : s.calls[i]? = some x) (hx : x.step a = some x')
    (hpermits : a.torn = true → torn i) :
    Divided streams torn { s with calls := s.calls.set i x' } := by
  refine ⟨h.balance, h.sane, ?_, ?_⟩
  · intro c y hy
    rw [List.length_set]
    exact h.chunks c y hy
  · intro j y hj c
    rcases getElem?_set_cases hj with ⟨rfl, rfl⟩ | ⟨-, hold⟩
    · obtain ⟨hsub, hwhole⟩ := h.calls i x hi c
      obtain ⟨hpart, hkept⟩ := StdioCall.total_step hx c
      refine ⟨hpart.trans hsub, fun huntorn => ?_⟩
      have hall : a.torn = false := by
        by_contra htorn
        exact huntorn (hpermits (by simpa using htorn))
      rw [hkept hall, hwhole huntorn]
    · exact h.calls j y hold c

theorem Divided.next {a : Act} (h : Divided streams torn s) (hpermits : Permits torn a)
    (hnext : Next s a s') : Divided streams torn s' := by
  cases hnext with
  | read hpc hread => exact h.read hpc hread
  | connect => exact h.connect
  | select hi hpc hstream => exact h.select hi hpc hstream
  | call hi hx => exact h.call hi hx hpermits

end

/-- **The output of a gRPC plugin with several hosts.**  In every run what the plugin prints on a
    stream is cut into chunks of at most 1024 bytes that go to one `StreamStdio` call each, up to
    what no call has received.  A host's writer gets bytes of the chunks of its call only, in
    order; and where it takes what it is given, the chunks are what was written and, behind it, what
    is under way, with the message that `Send` failed on as the last. -/
theorem output_shared (sources : StdStream → Source) (run : List Act) {s : StdioServer}
    (hrun : exec step (init sources) run = some s) (c : StdStream) :
    ∃ chunks : List (Nat × ByteString),
      (chunks.map Prod.snd).flatten ++ s.ahead c = (sources c).rest ∧
      (∀ x ∈ chunks, x.1 < s.calls.length ∧ x.2 ≠ [] ∧ x.2.length ≤ grpcStdioBuffer) ∧
      ∀ (i : Nat) (x : StdioCall), s.calls[i]? = some x →
        x.written c <+ share chunks i ∧
        ((∀ n panics, Act.call i (.recvTorn n panics) ∉ run) →
          x.written c ++ x.underway c = share chunks i) := by
  let torn : Nat → Prop := fun i => ∃ n panics, Act.call i (.recvTorn n panics) ∈ run
  have hpermits : ∀ a ∈ run, Permits torn a := by
    intro a ha
    cases a with
    | call i b =>
        intro htorn
        cases b with
        | recvTorn n panics => exact ⟨n, panics, ha⟩
        | done | send | recv | recvError => cases htorn
    | read | connect | select => trivial
  have hdivided : Divided (fun c => (sources c).rest) torn s :=
    exec_invariant (fun _ _ _ h hguard hstep => h.next hguard (next_of_step hstep))
      (divided_init sources torn) (along_of_forall_mem hpermits _) hrun
  refine ⟨s.chunks c, hdivided.balance c, hdivided.chunks c, ?_⟩
  intro i x hi
  obtain ⟨hsub, hwhole⟩ := hdivided.calls i x hi c
  refine ⟨(List.sublist_append_left _ _).trans hsub, fun huntorn => hwhole ?_⟩
  rintro ⟨n, panics, hmem⟩
  exact huntorn n panics hmem

/-- The first host is gone when its call sends; the second gets what is printed then. -/
def reattachedRun : List Act :=
  [.connect, .read .err, .read .out, .read .out, .select 0 .err, .call 0 (.send true),
    .call 0 .recv, .select 0 .out, .connect, .call 0 (.send false), .read .out, .select 1 .out,
    .call 1 (.send true), .call 1 .recv]

theorem output_shared_reattached :
    ∃ s, exec step (init Stdio.twoSources) reattachedRun = some s ∧
      ∃ chunks : List (Nat × ByteString), (chunks.map Prod.snd).flatten = ascii "hi" ∧
        share chunks 0 = ascii "h" ∧ share chunks 1 = ascii "i" := by
  obtain ⟨chunks, hbalance, -, hcalls⟩ := output_shared Stdio.twoSources reattachedRun rfl .out
  have huntorn : ∀ i n panics, Act.call i (.recvTorn n panics) ∉ reattachedRun := by
    intro i n panics
    simp [reattachedRun]
  have hfirst := (hcalls 0 _ rfl).2 (huntorn 0)
  have hsecond := (hcalls 1 _ rfl).2 (huntorn 1)
  change (chunks.map Prod.snd).flatten ++ [] = ascii "hi" at hbalance
  rw [List.append_nil] at hbalance
  exact ⟨_, rfl, chunks, hbalance, hfirst.symm, hsecond.symm⟩

end StdioServer

end GoPlugin
