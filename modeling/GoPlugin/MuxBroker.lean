import GoPlugin.LabelledSystem
import GoPlugin.PendingTable

/-!
# The net/rpc broker (`mux_broker.go`)

One `MuxBroker` as a labelled system.  Every goroutine that touches the broker is
a thread with a program counter: the `Run` loop, each `Accept` call and each
`timeoutWait`.  A critical section under the broker's mutex is one action; a channel
operation, a timer that fires and a `go` statement are one action each, so the
interleavings between them are those of the source.

Incoming streams are numbered in the order in which `Run` takes them from the yamux
session.  What the peer wrote on them is left to the environment: `readID` carries
the id that `binary.Read` returned, or `none` where it failed.

A second close of a `doneCh` panics, which ends the process: `panicked` is set and
no action is enabled any more.
-/

namespace GoPlugin

open Tally

namespace MuxBroker

/-! ### The threads -/

/-- Where an `Accept` call stands. -/
inductive AcceptPc where
  | waiting              -- in the select on `p.ch` and the timer
  | took (c : Nat)       -- received `c`, before `close(p.doneCh)`
  | acking (c : Nat)     -- before `binary.Write` of the ack
  | returned (c : Nat)   -- `return c, nil`
  | ackFailed (c : Nat)  -- the write failed: `c` is closed, the error returned
  | expired              -- the timer won, before the critical section
  | timedOut             -- returned `ErrBrokerTimeout`
deriving DecidableEq, Repr

/-- An `Accept(id)` call and the entry `getStream` gave it. -/
structure AcceptCall where
  id : UInt32
  p : Nat
  pc : AcceptPc
deriving DecidableEq, Repr

/-- The stream the call has received, if any. -/
def AcceptPc.conn : AcceptPc → Option Nat
  | .took c | .acking c | .returned c | .ackFailed c => some c
  | .waiting | .expired | .timedOut => none

def AcceptPc.finished : AcceptPc → Bool
  | .returned _ | .ackFailed _ | .timedOut => true
  | _ => false

/-- Where the `Run` loop stands. -/
inductive RunPc where
  | accepting                                    -- in `AcceptStream`
  | reading (stream : Nat)                       -- before `binary.Read` of the id
  | routing (stream : Nat) (id : UInt32)         -- before `getStream`
  | offering (stream : Nat) (id : UInt32) (p : Nat) -- before the select on `p.ch`
  | spawning (id : UInt32) (p : Nat)             -- before `go m.timeoutWait(id, p)`
  | stopped                                      -- `AcceptStream` failed
deriving DecidableEq, Repr

/-- The stream `Run` has taken from the session and not yet disposed of. -/
def RunPc.conn : RunPc → Option Nat
  | .reading s | .routing s _ | .offering s _ _ => some s
  | .accepting | .spawning _ _ | .stopped => none

inductive WaitPc where
  | waiting                  -- in the select on `p.doneCh` and the timer
  | woken (timeout : Bool)   -- before the critical section
  | finished
deriving DecidableEq, Repr

/-- A `timeoutWait(id, p)` goroutine. -/
structure TimeoutWait where
  id : UInt32
  p : Nat
  pc : WaitPc
deriving DecidableEq, Repr

end MuxBroker

open MuxBroker

/-- The broker with its goroutines.  `closed` lists the streams that `Run` and
    `timeoutWait` closed, `arrived` counts those taken from the session. -/
structure MuxBroker where
  streams : PendingTable UInt32 Nat
  run : RunPc
  accepts : List AcceptCall
  waits : List TimeoutWait
  arrived : Nat
  closed : List Nat
  panicked : Bool

namespace MuxBroker

/-- `newMuxBroker`, with `Run` about to accept. -/
def init : MuxBroker where
  streams := .empty
  run := .accepting
  accepts := []
  waits := []
  arrived := 0
  closed := []
  panicked := false

/-! ### Actions -/

inductive RunAct where
  | acceptStream | readID (id : Option UInt32) | getStream | offer | spawn | stop
deriving DecidableEq, Repr

inductive AcceptAct where
  | recv | closeDone | ack (ok : Bool) | expire | reap
deriving DecidableEq, Repr

inductive WaitAct where
  | done | expire | clean
deriving DecidableEq, Repr

inductive Act where
  | run (a : RunAct)
  | accept (id : UInt32)              -- a new `Accept(id)` call, up to its select
  | call (i : Nat) (a : AcceptAct)    -- the `i`-th `Accept` call goes on
  | wait (w : Nat) (a : WaitAct)      -- the `w`-th `timeoutWait` goes on
deriving DecidableEq, Repr

/-- `MuxBroker.Run`. -/
def runStep (m : MuxBroker) : RunAct → Option MuxBroker
  | .acceptStream =>
      match m.run with
      | .accepting => some { m with run := .reading m.arrived, arrived := m.arrived + 1 }
      | _ => none
  | .readID (some id) =>
      match m.run with
      | .reading s => some { m with run := .routing s id }
      | _ => none
  | .readID none =>
      match m.run with
      | .reading s => some { m with run := .accepting, closed := s :: m.closed }
      | _ => none
  | .getStream =>
      match m.run with
      | .routing s id =>
          some { m with run := .offering s id (m.streams.slot id)
                        streams := m.streams.fetch id }
      | _ => none
  | .offer =>
      match m.run with
      | .offering s id p =>
          match m.streams.ch p with
          | none => some { m with run := .spawning id p, streams := m.streams.put p s }
          | some _ => some { m with run := .accepting, closed := s :: m.closed }
      | _ => none
  | .spawn =>
      match m.run with
      | .spawning id p =>
          some { m with run := .accepting, waits := m.waits ++ [⟨id, p, .waiting⟩] }
      | _ => none
  | .stop =>
      match m.run with
      | .accepting => some { m with run := .stopped }
      | _ => none

/-- The rest of the `i`-th `Accept` call. -/
def acceptStep (m : MuxBroker) (i : Nat) : AcceptAct → Option MuxBroker
  | .recv =>
      match m.accepts[i]? with
      | some ⟨id, p, .waiting⟩ =>
          match m.streams.ch p with
          | some c =>
              some { m with accepts := m.accepts.set i ⟨id, p, .took c⟩
                            streams := m.streams.take p }
          | none => none
      | _ => none
  | .closeDone =>
      match m.accepts[i]? with
      | some ⟨id, p, .took c⟩ =>
          if m.streams.closed p then some { m with panicked := true }
          else some { m with accepts := m.accepts.set i ⟨id, p, .acking c⟩
                             streams := m.streams.closeDone p }
      | _ => none
  | .ack ok =>
      match m.accepts[i]? with
      | some ⟨id, p, .acking c⟩ =>
          some { m with accepts :=
            m.accepts.set i ⟨id, p, if ok then .returned c else .ackFailed c⟩ }
      | _ => none
  | .expire =>
      match m.accepts[i]? with
      | some ⟨id, p, .waiting⟩ =>
          some { m with accepts := m.accepts.set i ⟨id, p, .expired⟩ }
      | _ => none
  | .reap =>
      match m.accepts[i]? with
      | some ⟨id, p, .expired⟩ =>
          some { m with accepts := m.accepts.set i ⟨id, p, .timedOut⟩
                        streams := m.streams.erase id }
      | _ => none

/-- `MuxBroker.timeoutWait`.  The drain in the critical section has a `default`
    branch, so an empty slot is left as it is. -/
def timeoutWaitStep (m : MuxBroker) (w : Nat) : WaitAct → Option MuxBroker
  | .done =>
      match m.waits[w]? with
      | some ⟨id, p, .waiting⟩ =>
          if m.streams.closed p then
            some { m with waits := m.waits.set w ⟨id, p, .woken false⟩ }
          else none
      | _ => none
  | .expire =>
      match m.waits[w]? with
      | some ⟨id, p, .waiting⟩ =>
          some { m with waits := m.waits.set w ⟨id, p, .woken true⟩ }
      | _ => none
  | .clean =>
      match m.waits[w]? with
      | some ⟨id, p, .woken false⟩ =>
          some { m with waits := m.waits.set w ⟨id, p, .finished⟩
                        streams := m.streams.erase id }
      | some ⟨id, p, .woken true⟩ =>
          match m.streams.ch p with
          | some s =>
              some { m with waits := m.waits.set w ⟨id, p, .finished⟩
                            streams := (m.streams.erase id).take p
                            closed := s :: m.closed }
          | none =>
              some { m with waits := m.waits.set w ⟨id, p, .finished⟩
                            streams := m.streams.erase id }
      | _ => none

def step (m : MuxBroker) (a : Act) : Option MuxBroker :=
  if m.panicked then none
  else match a with
    | .run a => m.runStep a
    | .accept id =>
        some { m with accepts := m.accepts ++ [⟨id, m.streams.slot id, .waiting⟩]
                      streams := m.streams.fetch id }
    | .call i a => m.acceptStep i a
    | .wait w a => m.timeoutWaitStep w a

/-! ### What one step can do

`Move` lists the enabled branches of `step`, each with its guard and its successor
state.  Every invariant is proved by one case analysis over it. -/

inductive Move (m : MuxBroker) : Act → MuxBroker → Prop where
  | acceptStream (h : m.run = .accepting) :
      Move m (.run .acceptStream)
        { m with run := .reading m.arrived, arrived := m.arrived + 1 }
  | readID {s id} (h : m.run = .reading s) :
      Move m (.run (.readID (some id))) { m with run := .routing s id }
  | readFail {s} (h : m.run = .reading s) :
      Move m (.run (.readID none)) { m with run := .accepting, closed := s :: m.closed }
  | getStream {s id} (h : m.run = .routing s id) :
      Move m (.run .getStream)
        { m with run := .offering s id (m.streams.slot id)
                 streams := m.streams.fetch id }
  | queue {s id p} (h : m.run = .offering s id p) (hch : m.streams.ch p = none) :
      Move m (.run .offer)
        { m with run := .spawning id p, streams := m.streams.put p s }
  | overflow {s id p s'} (h : m.run = .offering s id p) (hch : m.streams.ch p = some s') :
      Move m (.run .offer) { m with run := .accepting, closed := s :: m.closed }
  | spawn {id p} (h : m.run = .spawning id p) :
      Move m (.run .spawn)
        { m with run := .accepting, waits := m.waits ++ [⟨id, p, .waiting⟩] }
  | stop (h : m.run = .accepting) : Move m (.run .stop) { m with run := .stopped }
  | accept {id} :
      Move m (.accept id)
        { m with accepts := m.accepts ++ [⟨id, m.streams.slot id, .waiting⟩]
                 streams := m.streams.fetch id }
  | recv {i id p c} (h : m.accepts[i]? = some ⟨id, p, .waiting⟩)
      (hch : m.streams.ch p = some c) :
      Move m (.call i .recv)
        { m with accepts := m.accepts.set i ⟨id, p, .took c⟩
                 streams := m.streams.take p }
  | closeDone {i id p c} (h : m.accepts[i]? = some ⟨id, p, .took c⟩)
      (hopen : m.streams.closed p = false) :
      Move m (.call i .closeDone)
        { m with accepts := m.accepts.set i ⟨id, p, .acking c⟩
                 streams := m.streams.closeDone p }
  | doubleClose {i id p c} (h : m.accepts[i]? = some ⟨id, p, .took c⟩)
      (hclosed : m.streams.closed p = true) :
      Move m (.call i .closeDone) { m with panicked := true }
  | ack {i id p c} (h : m.accepts[i]? = some ⟨id, p, .acking c⟩) :
      Move m (.call i (.ack true))
        { m with accepts := m.accepts.set i ⟨id, p, .returned c⟩ }
  | ackFail {i id p c} (h : m.accepts[i]? = some ⟨id, p, .acking c⟩) :
      Move m (.call i (.ack false))
        { m with accepts := m.accepts.set i ⟨id, p, .ackFailed c⟩ }
  | expire {i id p} (h : m.accepts[i]? = some ⟨id, p, .waiting⟩) :
      Move m (.call i .expire)
        { m with accepts := m.accepts.set i ⟨id, p, .expired⟩ }
  | reap {i id p} (h : m.accepts[i]? = some ⟨id, p, .expired⟩) :
      Move m (.call i .reap)
        { m with accepts := m.accepts.set i ⟨id, p, .timedOut⟩
                 streams := m.streams.erase id }
  | waitDone {w id p} (h : m.waits[w]? = some ⟨id, p, .waiting⟩)
      (hclosed : m.streams.closed p = true) :
      Move m (.wait w .done) { m with waits := m.waits.set w ⟨id, p, .woken false⟩ }
  | waitExpire {w id p} (h : m.waits[w]? = some ⟨id, p, .waiting⟩) :
      Move m (.wait w .expire) { m with waits := m.waits.set w ⟨id, p, .woken true⟩ }
  | clean {w id p timeout} (h : m.waits[w]? = some ⟨id, p, .woken timeout⟩)
      (hch : timeout = true → m.streams.ch p = none) :
      Move m (.wait w .clean)
        { m with waits := m.waits.set w ⟨id, p, .finished⟩
                 streams := m.streams.erase id }
  | drain {w id p s} (h : m.waits[w]? = some ⟨id, p, .woken true⟩)
      (hch : m.streams.ch p = some s) :
      Move m (.wait w .clean)
        { m with waits := m.waits.set w ⟨id, p, .finished⟩
                 streams := (m.streams.erase id).take p
                 closed := s :: m.closed }

theorem move_of_runStep {m m' : MuxBroker} {a : RunAct} (h : m.runStep a = some m') :
    Move m (.run a) m' := by
  cases a with
  | readID id =>
      cases id <;> simp only [runStep] at h <;> split at h <;> cases h <;>
        constructor <;> assumption
  | offer =>
      simp only [runStep] at h
      split at h
      · split at h <;> cases h
        · exact .queue ‹_› ‹_›
        · exact .overflow ‹_› ‹_›
      · cases h
  | _ =>
      simp only [runStep] at h
      split at h <;> cases h
      constructor
      assumption

theorem move_of_acceptStep {m m' : MuxBroker} {i : Nat} {a : AcceptAct}
    (h : m.acceptStep i a = some m') : Move m (.call i a) m' := by
  cases a with
  | recv =>
      simp only [acceptStep] at h
      split at h
      · split at h <;> cases h
        exact .recv ‹_› ‹_›
      · cases h
  | closeDone =>
      simp only [acceptStep] at h
      split at h
      · split at h <;> cases h
        · exact .doubleClose ‹_› ‹_›
        · exact .closeDone ‹_› (Bool.eq_false_iff.mpr ‹_›)
      · cases h
  | ack ok =>
      cases ok <;> simp only [acceptStep] at h <;> split at h <;> cases h
      · exact .ackFail ‹_›
      · exact .ack ‹_›
  | _ =>
      simp only [acceptStep] at h
      split at h <;> cases h
      constructor
      assumption

theorem move_of_timeoutWaitStep {m m' : MuxBroker} {w : Nat} {a : WaitAct}
    (h : m.timeoutWaitStep w a = some m') : Move m (.wait w a) m' := by
  cases a with
  | done =>
      simp only [timeoutWaitStep] at h
      split at h
      · split at h <;> cases h
        exact .waitDone ‹_› ‹_›
      · cases h
  | expire =>
      simp only [timeoutWaitStep] at h
      split at h <;> cases h
      exact .waitExpire ‹_›
  | clean =>
      simp only [timeoutWaitStep] at h
      split at h
      · cases h
        exact .clean ‹_› (by simp)
      · split at h <;> cases h
        · exact .drain ‹_› ‹_›
        · exact .clean ‹_› (fun _ => ‹_›)
      · cases h

/-- Every step is one of the listed moves, taken by a process that has not crashed. -/
theorem move_of_step {m m' : MuxBroker} {a : Act} (h : m.step a = some m') :
    m.panicked = false ∧ Move m a m' := by
  unfold step at h
  split at h
  · cases h
  · refine ⟨Bool.eq_false_iff.mpr ‹_›, ?_⟩
    cases a with
    | run a => exact move_of_runStep h
    | accept id =>
        cases h
        exact .accept
    | call i a => exact move_of_acceptStep h
    | wait w a => exact move_of_timeoutWaitStep h

/-! ### What a move does to the threads -/

/-- How an `Accept` call that holds entry `p` moves on. -/
inductive AcceptStep (m : MuxBroker) (p : Nat) : AcceptAct → AcceptPc → AcceptPc → Prop where
  | recv {c} (hch : m.streams.ch p = some c) : AcceptStep m p .recv .waiting (.took c)
  | closeDone {c} : AcceptStep m p .closeDone (.took c) (.acking c)
  | ack {c} : AcceptStep m p (.ack true) (.acking c) (.returned c)
  | ackFail {c} : AcceptStep m p (.ack false) (.acking c) (.ackFailed c)
  | expire : AcceptStep m p .expire .waiting .expired
  | reap : AcceptStep m p .reap .expired .timedOut

/-- What becomes of the `Accept` calls in one move. -/
inductive AcceptsNext (m m' : MuxBroker) (a : Act) : Prop where
  | same (h : m'.accepts = m.accepts)
  | step {i x id p pc pc'} (ha : a = .call i x) (hcall : m.accepts[i]? = some ⟨id, p, pc⟩)
      (hstep : AcceptStep m p x pc pc') (h : m'.accepts = m.accepts.set i ⟨id, p, pc'⟩)
  | new {id} (ha : a = .accept id) (hstreams : m'.streams = m.streams.fetch id)
      (h : m'.accepts = m.accepts ++ [⟨id, m.streams.slot id, .waiting⟩])

theorem AcceptStep.unfinished {m : MuxBroker} {p : Nat} {x : AcceptAct} {pc pc' : AcceptPc}
    (h : AcceptStep m p x pc pc') : pc.finished = false := by
  cases h <;> rfl

/-- A call gets its stream from the slot of its entry, and keeps it. -/
theorem AcceptStep.conn {m : MuxBroker} {p : Nat} {x : AcceptAct} {pc pc' : AcceptPc}
    (h : AcceptStep m p x pc pc') {n : Nat} (hn : pc'.conn = some n) :
    pc.conn = some n ∨ m.streams.ch p = some n := by
  cases h with
  | recv hch =>
      cases hn
      exact Or.inr hch
  | expire | reap => cases hn
  | closeDone | ack | ackFail => exact Or.inl hn

section Threads

variable {m m' : MuxBroker} {a : Act} {i : Nat}

theorem Move.acceptsNext (h : Move m a m') : AcceptsNext m m' a := by
  cases h with
  | accept => exact .new rfl rfl rfl
  | recv hcall hch => exact .step rfl hcall (.recv hch) rfl
  | closeDone hcall => exact .step rfl hcall .closeDone rfl
  | ack hcall => exact .step rfl hcall .ack rfl
  | ackFail hcall => exact .step rfl hcall .ackFail rfl
  | expire hcall => exact .step rfl hcall .expire rfl
  | reap hcall => exact .step rfl hcall .reap rfl
  | _ => exact .same rfl

/-- Where an `Accept` call of the state after the move comes from. -/
theorem Move.accepts_cases (h : Move m a m') {c : AcceptCall} (hc : m'.accepts[i]? = some c) :
    m.accepts[i]? = some c ∨
      (∃ x pc, a = .call i x ∧ m.accepts[i]? = some ⟨c.id, c.p, pc⟩ ∧
        AcceptStep m c.p x pc c.pc) ∨
      (i = m.accepts.length ∧ a = .accept c.id ∧ m'.streams = m.streams.fetch c.id ∧
        c = ⟨c.id, m.streams.slot c.id, .waiting⟩) := by
  cases h.acceptsNext with
  | same h => exact Or.inl (h ▸ hc)
  | step ha hcall hstep h =>
      rw [h] at hc
      rcases getElem?_set_cases hc with ⟨rfl, rfl⟩ | ⟨-, hold⟩
      · exact Or.inr (Or.inl ⟨_, _, ha, hcall, hstep⟩)
      · exact Or.inl hold
  | new ha hstreams h =>
      rw [h] at hc
      rcases getElem?_concat_cases hc with hold | ⟨hi, rfl⟩
      · exact Or.inl hold
      · exact Or.inr (Or.inr ⟨hi, ha, hstreams, rfl⟩)

/-- An `Accept` call keeps its id, and one that has finished does not change. -/
theorem Move.accepts_next (h : Move m a m') {c : AcceptCall} (hc : m.accepts[i]? = some c) :
    ∃ c', m'.accepts[i]? = some c' ∧ c'.id = c.id ∧ (c.pc.finished = true → c' = c) := by
  cases h.acceptsNext with
  | same h =>
      rw [h]
      exact ⟨c, hc, rfl, fun _ => rfl⟩
  | @step j x id p pc pc' ha hcall hstep h =>
      rw [h]
      rcases getElem?_set_of_some hc j ⟨id, p, pc'⟩ with ⟨rfl, hnew⟩ | ⟨-, hold⟩
      · cases hcall.symm.trans hc
        refine ⟨_, hnew, rfl, fun hdone => ?_⟩
        cases hstep.unfinished.symm.trans hdone
      · exact ⟨c, hold, rfl, fun _ => rfl⟩
  | new ha hstreams h =>
      rw [h]
      exact ⟨c, getElem?_concat_of_some hc _, rfl, fun _ => rfl⟩

/-- A call that has returned stays as it is. -/
theorem Move.accepts_finished (h : Move m a m') {c : AcceptCall} (hc : m.accepts[i]? = some c)
    (hdone : c.pc.finished = true) : m'.accepts[i]? = some c := by
  obtain ⟨c', hc', -, hsame⟩ := h.accepts_next hc
  rw [hc', hsame hdone]

/-- A `timeoutWait` keeps its id and its entry.  `Run` starts it with those it has in hand. -/
theorem Move.waits_cases (h : Move m a m') {w : TimeoutWait} (hw : m'.waits[i]? = some w) :
    (∃ w₀, m.waits[i]? = some w₀ ∧ w₀.id = w.id ∧ w₀.p = w.p) ∨
      m.run = .spawning w.id w.p := by
  cases h with
  | spawn hrun =>
      rcases getElem?_concat_cases hw with hold | ⟨-, rfl⟩
      · exact Or.inl ⟨w, hold, rfl, rfl⟩
      · exact Or.inr hrun
  | waitDone hwait | waitExpire hwait | clean hwait | drain hwait =>
      rcases getElem?_set_cases hw with ⟨rfl, rfl⟩ | ⟨-, hold⟩
      · exact Or.inl ⟨_, hwait, rfl, rfl⟩
      · exact Or.inl ⟨w, hold, rfl, rfl⟩
  | _ => exact Or.inl ⟨w, hw, rfl, rfl⟩

/-- The `Run` loop routes a stream by the id that it has read. -/
theorem Move.routing_cases (h : Move m a m') {s : Nat} {id : UInt32}
    (hrun : m'.run = .routing s id) :
    m.run = .routing s id ∨ (m.run = .reading s ∧ a = .run (.readID (some id))) := by
  cases h with
  | readID hread =>
      cases hrun
      exact Or.inr ⟨hread, rfl⟩
  | acceptStream | readFail | getStream | queue | overflow | spawn | stop => cases hrun
  | _ => exact Or.inl hrun

theorem Move.offering_cases (h : Move m a m') {s p : Nat} {id : UInt32}
    (hrun : m'.run = .offering s id p) :
    m.run = .offering s id p ∨
      (m.run = .routing s id ∧ p = m.streams.slot id ∧ m'.streams = m.streams.fetch id) := by
  cases h with
  | getStream hroute =>
      cases hrun
      exact Or.inr ⟨hroute, rfl, rfl⟩
  | acceptStream | readID | readFail | queue | overflow | spawn | stop => cases hrun
  | _ => exact Or.inl hrun

theorem Move.spawning_cases (h : Move m a m') {p : Nat} {id : UInt32}
    (hrun : m'.run = .spawning id p) :
    m.run = .spawning id p ∨ ∃ s, m.run = .offering s id p := by
  cases h with
  | queue hoffer =>
      cases hrun
      exact Or.inr ⟨_, hoffer⟩
  | acceptStream | readID | readFail | getStream | overflow | spawn | stop => cases hrun
  | _ => exact Or.inl hrun

end Threads

/-! ### What a move does to the entries -/

section Entries

open PendingTable

variable {m m' : MuxBroker} {a : Act} {p : Nat}

/-- No cell loses its id. -/
theorem Move.keyOf (h : Move m a m') {id : UInt32} (hp : m.streams.keyOf p = some id) :
    m'.streams.keyOf p = some id := by
  cases h with
  | getStream | accept => exact keyOf_fetch _ hp
  | queue => exact (keyOf_put ..).trans hp
  | recv => exact (keyOf_take ..).trans hp
  | closeDone => exact (keyOf_closeDone ..).trans hp
  | drain => exact (keyOf_take ..).trans hp
  | _ => exact hp

/-- Only `Run` puts streams into slots. -/
theorem Move.ch_cases (h : Move m a m') {s : Nat} (hp : m'.streams.ch p = some s) :
    m.streams.ch p = some s ∨ ∃ id, m.run = .offering s id p := by
  cases h with
  | getStream | accept =>
      rw [ch_fetch] at hp
      exact Or.inl hp
  | queue hrun =>
      rw [ch_put] at hp
      split at hp
      · next heq =>
          cases hp
          exact Or.inr ⟨_, heq.1 ▸ hrun⟩
      · exact Or.inl hp
  | recv | drain =>
      rw [ch_take] at hp
      split at hp
      · cases hp
      · exact Or.inl hp
  | closeDone =>
      rw [ch_closeDone] at hp
      exact Or.inl hp
  | _ => exact Or.inl hp

end Entries

end MuxBroker

end GoPlugin
