import GoPlugin.MuxBroker

/-!
# Stream ownership in the net/rpc broker

Every stream that `Run` takes from the session is, at every moment, in exactly one
place: in `Run`'s hands, in the slot of some entry, with one `Accept` call, or closed
(`account_eq`).  This holds in every run.  Whether a stream can stay in a slot for
ever is a different matter: `timeoutWait` empties the slot only on its timeout branch.
So an entry must not be filled again once an `Accept` has drawn a stream from it,
and that is the side condition `QueuesUnused` of the results below.
-/

namespace GoPlugin

namespace MuxBroker

open Tally PendingTable LabelledSystem

/-! ### Entries keep their id -/

/-- Every entry that a thread holds was made for the id the thread works on. -/
structure Keyed (m : MuxBroker) : Prop where
  offering : ∀ s id p, m.run = .offering s id p → m.streams.keyOf p = some id
  spawning : ∀ id p, m.run = .spawning id p → m.streams.keyOf p = some id
  accepts : ∀ (i : Nat) (c : AcceptCall),
    m.accepts[i]? = some c → m.streams.keyOf c.p = some c.id
  waits : ∀ (i : Nat) (w : TimeoutWait),
    m.waits[i]? = some w → m.streams.keyOf w.p = some w.id

theorem keyed_init : Keyed init := by
  constructor <;> simp [init]

theorem Keyed.move {m m' : MuxBroker} {a : Act} (h : Keyed m) (hmove : Move m a m') :
    Keyed m' := by
  constructor
  · intro s id p hrun
    rcases hmove.offering_cases hrun with hold | ⟨-, rfl, hstreams⟩
    · exact hmove.keyOf (h.offering s id p hold)
    · rw [hstreams]
      exact keyOf_slot _ _
  · intro id p hrun
    rcases hmove.spawning_cases hrun with hold | ⟨s, hoffer⟩
    · exact hmove.keyOf (h.spawning id p hold)
    · exact hmove.keyOf (h.offering s id p hoffer)
  · intro i c hc
    rcases hmove.accepts_cases hc with hold | ⟨x, pc, -, hold, -⟩ | ⟨-, -, hstreams, hnew⟩
    · exact hmove.keyOf (h.accepts i c hold)
    · exact hmove.keyOf (h.accepts i ⟨c.id, c.p, pc⟩ hold)
    · rw [hnew, hstreams]
      exact keyOf_slot _ _
  · intro i w hw
    rcases hmove.waits_cases hw with ⟨w₀, hold, hid, hp⟩ | hspawn
    · rw [← hid, ← hp]
      exact hmove.keyOf (h.waits i w₀ hold)
    · exact hmove.keyOf (h.spawning w.id w.p hspawn)

/-! ### Every stream is in one place -/

/-- Whether a thread that holds `o` holds stream `n`, as a count. -/
def holding (n : Nat) (o : Option Nat) : Nat := if o = some n then 1 else 0

/-- How many `Accept` calls have received stream `n`. -/
def takers (m : MuxBroker) (n : Nat) : Nat :=
  tally (fun c => holding n c.pc.conn) m.accepts

/-- In how many places stream `n` is. -/
def account (m : MuxBroker) (n : Nat) : Nat :=
  holding n m.run.conn + m.streams.load (fun s => holding n (some s)) + m.takers n
    + m.closed.count n

def Accounted (m : MuxBroker) : Prop :=
  ∀ n, m.account n = if n < m.arrived then 1 else 0

theorem accounted_init : Accounted init := by
  intro n
  simp [account, init, takers, holding, load, empty, RunPc.conn]

@[simp] theorem holding_none (n : Nat) : holding n none = 0 := rfl

theorem count_cons_eq (s n : Nat) (l : List Nat) :
    (s :: l).count n = l.count n + holding n (some s) := by
  simp [holding, List.count_cons]

/-- Moving an `Accept` call on trades what it held for what it holds. -/
theorem takers_set {m : MuxBroker} {i p : Nat} {id : UInt32} {pc : AcceptPc}
    (h : m.accepts[i]? = some ⟨id, p, pc⟩) (pc' : AcceptPc) (o o' : Option Nat) (n : Nat)
    (ho : pc.conn = o) (ho' : pc'.conn = o') :
    tally (fun c => holding n c.pc.conn) (m.accepts.set i ⟨id, p, pc'⟩) + holding n o =
      tally (fun c => holding n c.pc.conn) m.accepts + holding n o' := by
  subst ho ho'
  exact tally_set (fun c : AcceptCall => holding n c.pc.conn) ⟨id, p, pc'⟩ h

theorem Accounted.move {m m' : MuxBroker} {a : Act} (hkey : Keyed m) (h : Accounted m)
    (hmove : Move m a m') : Accounted m' := by
  intro n
  have hn := h n
  simp only [account, takers] at hn
  cases hmove with
  | acceptStream hrun =>
      -- the new stream gets the next number, and only `Run` has it
      have hnew : holding n (some m.arrived) = if n = m.arrived then 1 else 0 := by
        simp [holding, eq_comm]
      simp only [hrun, RunPc.conn, holding_none] at hn
      simp only [account, takers, RunPc.conn, hnew]
      split_ifs at hn ⊢ <;> omega
  | readFail hrun | overflow hrun hch =>
      simp only [hrun, RunPc.conn] at hn
      simp only [account, takers, RunPc.conn, holding_none, count_cons_eq]
      omega
  | @queue s id p hrun hch =>
      have hput := load_put (fun s => holding n (some s)) s
        (lt_length_of_keyOf (hkey.offering _ _ _ hrun)) hch
      simp only [hrun, RunPc.conn] at hn
      simp only [account, takers, RunPc.conn, holding_none, hput]
      omega
  | @recv i id p c hcall hch =>
      have htake := load_take (fun s => holding n (some s)) hch
      have hset := takers_set hcall (.took c) none (some c) n rfl rfl
      simp only [account, takers, holding_none] at hset ⊢
      omega
  | @drain w id p s hwait hch =>
      have htake := load_take (t := m.streams.erase id) (fun s => holding n (some s)) hch
      rw [load_erase] at htake
      simp only [account, takers, count_cons_eq]
      omega
  | @closeDone i id p c hcall hopen =>
      have hset := takers_set hcall (.acking c) (some c) (some c) n rfl rfl
      simp only [account, takers, load_closeDone]
      omega
  | @ack i id p c hcall =>
      have hset := takers_set hcall (.returned c) (some c) (some c) n rfl rfl
      simp only [account, takers]
      omega
  | @ackFail i id p c hcall =>
      have hset := takers_set hcall (.ackFailed c) (some c) (some c) n rfl rfl
      simp only [account, takers]
      omega
  | expire hcall =>
      have hset := takers_set hcall .expired none none n rfl rfl
      simp only [account, takers]
      omega
  | reap hcall =>
      have hset := takers_set hcall .timedOut none none n rfl rfl
      simp only [account, takers, load_erase]
      omega
  | readID hrun | spawn hrun | stop hrun =>
      simpa only [account, takers, hrun, RunPc.conn] using hn
  | getStream hrun => simpa only [account, takers, load_fetch, hrun, RunPc.conn] using hn
  | accept => simpa [account, takers, AcceptPc.conn] using hn
  | clean | doubleClose | waitDone | waitExpire => exact hn

/-! ### Entries that are drawn from once -/

/-- The entry that the action puts a stream into, if it does. -/
def fills (m : MuxBroker) : Act → Option Nat
  | .run .offer =>
      match m.run with
      | .offering _ _ p => if m.streams.ch p = none then some p else none
      | _ => none
  | _ => none

/-- `Run` queues no stream in an entry that an `Accept` has already drawn from. -/
def QueuesUnused (m : MuxBroker) (a : Act) : Prop :=
  ∀ p ∈ m.fills a, ∀ c ∈ m.accepts, c.p = p → c.pc.conn = none

instance (m : MuxBroker) (a : Act) : Decidable (m.QueuesUnused a) :=
  inferInstanceAs (Decidable (∀ p ∈ m.fills a, ∀ c ∈ m.accepts, c.p = p → c.pc.conn = none))

/-- The call has received a stream from entry `p` and not yet closed its `doneCh`. -/
def AcceptCall.opens (p : Nat) : AcceptCall → Nat
  | ⟨_, q, .took _⟩ => if q = p then 1 else 0
  | _ => 0

/-- The call has closed the `doneCh` of entry `p`. -/
def AcceptCall.closes (p : Nat) : AcceptCall → Nat
  | ⟨_, q, .acking _⟩ | ⟨_, q, .returned _⟩ | ⟨_, q, .ackFailed _⟩ => if q = p then 1 else 0
  | _ => 0

/-- The goroutine is still to clean up after entry `p`. -/
def TimeoutWait.watches (p : Nat) : TimeoutWait → Nat
  | ⟨_, _, .finished⟩ => 0
  | ⟨_, q, _⟩ => if q = p then 1 else 0

/-- `Run` is about to start the `timeoutWait` of entry `p`. -/
def RunPc.watches (p : Nat) : RunPc → Nat
  | .spawning _ q => if q = p then 1 else 0
  | _ => 0

/-- Whether the slot of entry `p` is taken, as a count. -/
def full (m : MuxBroker) (p : Nat) : Nat := if (m.streams.ch p).isSome then 1 else 0

/-- What holds as long as no entry is filled again after an `Accept` drew from it. -/
structure DrawnOnce (m : MuxBroker) : Prop where
  /-- An entry serves one stream in all: queued, received, or received and done. -/
  once : ∀ p, tally (AcceptCall.opens p) m.accepts + tally (AcceptCall.closes p) m.accepts
    + m.full p ≤ 1
  closer : ∀ p, m.streams.closed p = true → 1 ≤ tally (AcceptCall.closes p) m.accepts
  /-- A `timeoutWait` leaves by its first branch only after the close. -/
  woken : ∀ (i : Nat) (w : TimeoutWait),
    m.waits[i]? = some w → w.pc = .woken false → m.streams.closed w.p = true
  /-- A queued stream has a `timeoutWait` that is still to come. -/
  owned : ∀ p, m.full p ≤ m.run.watches p + tally (TimeoutWait.watches p) m.waits
  running : m.panicked = false

theorem drawnOnce_init : DrawnOnce init := by
  constructor <;> simp [init, full, ch, PendingTable.closed, PendingTable.empty]

/-- A move that neither fills nor drains a slot, closes nothing and keeps the
    goroutines that watch the entries preserves `DrawnOnce`. -/
theorem DrawnOnce.frame {m m' : MuxBroker} (h : DrawnOnce m)
    (hch : ∀ p, m'.streams.ch p = m.streams.ch p)
    (hclosed : ∀ p, m'.streams.closed p = m.streams.closed p)
    (hopens : ∀ p, tally (AcceptCall.opens p) m'.accepts = tally (AcceptCall.opens p) m.accepts)
    (hcloses : ∀ p,
      tally (AcceptCall.closes p) m'.accepts = tally (AcceptCall.closes p) m.accepts)
    (hwoken : ∀ (i : Nat) (w : TimeoutWait),
      m'.waits[i]? = some w → w.pc = .woken false → m.streams.closed w.p = true)
    (hwatches : ∀ p, m.run.watches p + tally (TimeoutWait.watches p) m.waits ≤
      m'.run.watches p + tally (TimeoutWait.watches p) m'.waits)
    (hpanicked : m'.panicked = m.panicked) : DrawnOnce m' where
  once p := by
    rw [hopens, hcloses]
    simpa only [full, hch] using h.once p
  closer p hp := by
    rw [hcloses]
    exact h.closer p (by rwa [hclosed] at hp)
  woken i w hw hpc := by
    rw [hclosed]
    exact hwoken i w hw hpc
  owned p := by
    have hfull : m'.full p = m.full p := by simp only [full, hch]
    rw [hfull]
    exact Nat.le_trans (h.owned p) (hwatches p)
  running := by rw [hpanicked, h.running]

/-- The weights of the `Accept` calls when one of them moves on. -/
theorem tally_opens_set {m : MuxBroker} {i p : Nat} {id : UInt32} {pc : AcceptPc}
    (hcall : m.accepts[i]? = some ⟨id, p, pc⟩) (pc' : AcceptPc) (q : Nat)
    (hsame : AcceptCall.opens q ⟨id, p, pc'⟩ = AcceptCall.opens q ⟨id, p, pc⟩) :
    tally (AcceptCall.opens q) (m.accepts.set i ⟨id, p, pc'⟩) =
      tally (AcceptCall.opens q) m.accepts := by
  have := tally_set (AcceptCall.opens q) ⟨id, p, pc'⟩ hcall
  omega

theorem tally_closes_set {m : MuxBroker} {i p : Nat} {id : UInt32} {pc : AcceptPc}
    (hcall : m.accepts[i]? = some ⟨id, p, pc⟩) (pc' : AcceptPc) (q : Nat)
    (hsame : AcceptCall.closes q ⟨id, p, pc'⟩ = AcceptCall.closes q ⟨id, p, pc⟩) :
    tally (AcceptCall.closes q) (m.accepts.set i ⟨id, p, pc'⟩) =
      tally (AcceptCall.closes q) m.accepts := by
  have := tally_set (AcceptCall.closes q) ⟨id, p, pc'⟩ hcall
  omega

/-- An entry that no call has drawn from has no weight. -/
theorem tally_draws_eq_zero {m : MuxBroker} {p : Nat}
    (hfresh : ∀ c ∈ m.accepts, c.p = p → c.pc.conn = none) :
    tally (AcceptCall.opens p) m.accepts = 0 ∧ tally (AcceptCall.closes p) m.accepts = 0 := by
  constructor <;>
  · refine tally_eq_zero.mpr fun c hc => ?_
    have hnone := hfresh c hc
    obtain ⟨id, q, pc⟩ := c
    cases pc <;> simp_all [AcceptCall.opens, AcceptCall.closes, AcceptPc.conn]

theorem DrawnOnce.queue {m : MuxBroker} {s p : Nat} {id : UInt32} (h : DrawnOnce m)
    (hrun : m.run = .offering s id p) (hlt : p < m.streams.cells.length)
    (hfresh : ∀ c ∈ m.accepts, c.p = p → c.pc.conn = none) :
    DrawnOnce { m with run := .spawning id p, streams := m.streams.put p s } where
  once q := by
    obtain ⟨hopens, hcloses⟩ := tally_draws_eq_zero hfresh
    have hq := h.once q
    by_cases hqp : q = p
    · simp [full, ch_put, hqp, hlt, hopens, hcloses]
    · simpa [full, ch_put, hqp] using hq
  closer := by simpa using h.closer
  woken := by simpa using h.woken
  owned q := by
    have hq := h.owned q
    by_cases hqp : q = p
    · simp [full, ch_put, hqp, hlt, RunPc.watches]
    · simpa [full, ch_put, RunPc.watches, hrun, hqp, Ne.symm hqp] using hq
  running := h.running

/-- Receiving moves the one stream of the entry from the slot to the call. -/
theorem DrawnOnce.recv {m : MuxBroker} {i p c : Nat} {id : UInt32} (h : DrawnOnce m)
    (hcall : m.accepts[i]? = some ⟨id, p, .waiting⟩) (hch : m.streams.ch p = some c) :
    DrawnOnce { m with accepts := m.accepts.set i ⟨id, p, .took c⟩
                       streams := m.streams.take p } where
  once q := by
    have hq := h.once q
    have hopens := tally_set (AcceptCall.opens q) ⟨id, p, .took c⟩ hcall
    have hcloses := tally_closes_set hcall (.took c) q rfl
    simp only [AcceptCall.opens] at hopens
    by_cases hqp : q = p
    · subst hqp
      simp only [full, hch, ch_take, hcloses, if_true, Option.isSome_some,
        Option.isSome_none] at hq hopens ⊢
      grind
    · simp only [full, ch_take, hcloses, if_neg hqp, if_neg (Ne.symm hqp)] at hq hopens ⊢
      omega
  closer q hq := by
    have hcloses := tally_closes_set hcall (.took c) q rfl
    have := h.closer q (by simpa using hq)
    simp only [hcloses, this]
  woken := by simpa using h.woken
  owned q := by
    have hq := h.owned q
    simp only [full, ch_take] at hq ⊢
    grind
  running := h.running

theorem DrawnOnce.closeDone {m : MuxBroker} {i p c : Nat} {id : UInt32} (h : DrawnOnce m)
    (hcall : m.accepts[i]? = some ⟨id, p, .took c⟩) :
    DrawnOnce { m with accepts := m.accepts.set i ⟨id, p, .acking c⟩
                       streams := m.streams.closeDone p } where
  once q := by
    have hq := h.once q
    have hopens := tally_set (AcceptCall.opens q) ⟨id, p, .acking c⟩ hcall
    have hcloses := tally_set (AcceptCall.closes q) ⟨id, p, .acking c⟩ hcall
    simp only [AcceptCall.opens, AcceptCall.closes] at hopens hcloses
    simp only [full, ch_closeDone] at hq ⊢
    omega
  closer q hq := by
    have hcloses := tally_set (AcceptCall.closes q) ⟨id, p, .acking c⟩ hcall
    simp only [AcceptCall.closes] at hcloses
    simp only [closed_closeDone] at hq ⊢
    by_cases hqp : q = p
    · simp only [hqp, if_true] at hcloses ⊢
      omega
    · simp only [hqp, false_and, if_false] at hq
      have := h.closer q hq
      omega
  woken j w hw hpc := by
    have := h.woken j w hw hpc
    simp only [closed_closeDone, this, ite_self]
  owned q := by simpa only [full, ch_closeDone] using h.owned q
  running := h.running

/-- A `timeoutWait` that cleans up leaves no stream behind: either the entry was
    drawn from, and then its slot is empty, or the goroutine empties it. -/
theorem DrawnOnce.clean {m m' : MuxBroker} {w p : Nat} {id : UInt32} {timeout : Bool}
    (h : DrawnOnce m) (hwait : m.waits[w]? = some ⟨id, p, .woken timeout⟩)
    (haccepts : m'.accepts = m.accepts) (hrun : m'.run = m.run)
    (hwaits : m'.waits = m.waits.set w ⟨id, p, .finished⟩)
    (hclosed : ∀ q, m'.streams.closed q = m.streams.closed q)
    (hch : ∀ q, q ≠ p → m'.streams.ch q = m.streams.ch q)
    (hempty : timeout = true → m'.streams.ch p = none)
    (hkeep : timeout = false → m'.streams.ch p = m.streams.ch p)
    (hpanicked : m'.panicked = m.panicked) : DrawnOnce m' := by
  have hslot : m'.streams.ch p = none := by
    cases timeout with
    | true => exact hempty rfl
    | false =>
        have h1 := h.closer p (h.woken w _ hwait rfl)
        have h2 := h.once p
        rw [hkeep rfl]
        by_contra hne
        have hfull : m.full p = 1 := by simp [full, Option.isSome_iff_ne_none, hne]
        omega
  have hfull : ∀ q, m'.full q ≤ m.full q := by
    intro q
    by_cases hq : q = p
    · simp [full, hq, hslot]
    · simp [full, hch q hq]
  constructor
  · intro q
    have := h.once q
    have := hfull q
    rw [haccepts]
    omega
  · intro q hq
    rw [haccepts]
    exact h.closer q (by rwa [hclosed] at hq)
  · intro j v hv hpc
    rw [hclosed]
    rw [hwaits] at hv
    rcases getElem?_set_cases hv with ⟨-, rfl⟩ | ⟨-, hv⟩
    · cases hpc
    · exact h.woken j v hv hpc
  · intro q
    have hq := h.owned q
    have hset := tally_set (TimeoutWait.watches q) ⟨id, p, .finished⟩ hwait
    simp only [TimeoutWait.watches] at hset
    rw [hwaits, hrun]
    by_cases hqp : q = p
    · simp [full, hqp, hslot]
    · have := hfull q
      simp only [if_neg (Ne.symm hqp)] at hset
      omega
  · rw [hpanicked, h.running]

/-- An `Accept` call about to close a `doneCh` finds it open. -/
theorem DrawnOnce.doneCh_open {m : MuxBroker} (h : DrawnOnce m) {i p c : Nat} {id : UInt32}
    (hcall : m.accepts[i]? = some ⟨id, p, .took c⟩) : m.streams.closed p = false := by
  -- the call that closed it and this one would both have drawn from the entry
  by_contra hclosed
  have hopens := le_tally (AcceptCall.opens p) hcall
  have hcloses := h.closer p (by simpa using hclosed)
  have hone := h.once p
  simp only [AcceptCall.opens, if_true] at hopens
  omega

theorem DrawnOnce.move {m m' : MuxBroker} {a : Act} (hkey : Keyed m) (h : DrawnOnce m)
    (hguard : m.QueuesUnused a) (hmove : Move m a m') : DrawnOnce m' := by
  cases hmove with
  | queue hrun hch =>
      refine h.queue hrun (lt_length_of_keyOf (hkey.offering _ _ _ hrun)) ?_
      apply hguard
      simp [fills, hrun, hch]
  | recv hcall hch => exact h.recv hcall hch
  | closeDone hcall hopen => exact h.closeDone hcall
  | doubleClose hcall hclosed =>
      rw [h.doneCh_open hcall] at hclosed
      cases hclosed
  | clean hwait hch =>
      exact h.clean hwait rfl rfl rfl (fun _ => rfl) (fun _ _ => rfl) hch (fun _ => rfl) rfl
  | drain hwait hch =>
      exact h.clean hwait rfl rfl rfl (by simp) (by simp +contextual [ch_take])
        (by simp [ch_take]) (by simp) rfl
  | spawn hrun =>
      refine h.frame (by simp) (by simp) (by simp) (by simp) ?_ ?_ rfl
      · intro i w hw hpc
        rw [List.getElem?_append] at hw
        split at hw
        · exact h.woken i w hw hpc
        · grind
      · intro p
        simp [hrun, RunPc.watches, TimeoutWait.watches]
        omega
  | acceptStream hrun | readID hrun | readFail hrun | overflow hrun hch | stop hrun =>
      exact h.frame (fun _ => rfl) (fun _ => rfl) (fun _ => rfl) (fun _ => rfl) h.woken
        (by simp [hrun, RunPc.watches]) rfl
  | getStream hrun =>
      exact h.frame (by simp) (by simp) (fun _ => rfl) (fun _ => rfl) h.woken
        (by simp [hrun, RunPc.watches]) rfl
  | accept =>
      exact h.frame (by simp) (by simp) (by simp [AcceptCall.opens])
        (by simp [AcceptCall.closes]) h.woken (fun _ => Nat.le_refl _) rfl
  | ack hcall | ackFail hcall | expire hcall | reap hcall =>
      exact h.frame (fun _ => rfl) (fun _ => rfl) (fun q => tally_opens_set hcall _ q rfl)
        (fun q => tally_closes_set hcall _ q rfl) h.woken (fun _ => Nat.le_refl _) rfl
  | @waitDone w id p hwait hclosed =>
      refine h.frame (fun _ => rfl) (fun _ => rfl) (fun _ => rfl) (fun _ => rfl) ?_ ?_ rfl
      · intro j v hv hpc
        rcases getElem?_set_cases hv with ⟨-, rfl⟩ | ⟨-, hv⟩
        · exact hclosed
        · exact h.woken j v hv hpc
      · intro q
        have hset := tally_set (TimeoutWait.watches q) ⟨id, p, .woken false⟩ hwait
        simp only [TimeoutWait.watches] at hset
        dsimp only
        omega
  | @waitExpire w id p hwait =>
      refine h.frame (fun _ => rfl) (fun _ => rfl) (fun _ => rfl) (fun _ => rfl) ?_ ?_ rfl
      · intro j v hv hpc
        rcases getElem?_set_cases hv with ⟨-, rfl⟩ | ⟨-, hv⟩
        · cases hpc
        · exact h.woken j v hv hpc
      · intro q
        have hset := tally_set (TimeoutWait.watches q) ⟨id, p, .woken true⟩ hwait
        simp only [TimeoutWait.watches] at hset
        dsimp only
        omega

/-! ### Runs -/

/-- The invariants of runs in which `Run` never fills a used entry. -/
theorem drawnOnce_of_exec {as : List Act} {m : MuxBroker}
    (hguard : Along step QueuesUnused init as) (hrun : exec step init as = some m) :
    Keyed m ∧ Accounted m ∧ DrawnOnce m := by
  have hstep : ∀ s a s', Keyed s ∧ Accounted s ∧ DrawnOnce s → QueuesUnused s a →
      step s a = some s' → Keyed s' ∧ Accounted s' ∧ DrawnOnce s' := by
    rintro s a s' ⟨hkey, hacc, honce⟩ hg hstep
    obtain ⟨-, hmove⟩ := move_of_step hstep
    exact ⟨hkey.move hmove, hacc.move hkey hmove, honce.move hkey hg hmove⟩
  exact exec_invariant hstep ⟨keyed_init, accounted_init, drawnOnce_init⟩ hguard hrun

/-- `Run` is between two streams, or has returned. -/
def RunPc.idle : RunPc → Bool
  | .accepting | .stopped => true
  | _ => false

/-- No `Accept` is in progress, `Run` is not in the middle of a stream and no
    `timeoutWait` is alive. -/
def Quiescent (m : MuxBroker) : Prop :=
  (∀ c ∈ m.accepts, c.pc.finished = true) ∧ m.run.idle = true ∧
    ∀ w ∈ m.waits, w.pc = .finished

instance (m : MuxBroker) : Decidable m.Quiescent := inferInstanceAs (Decidable (_ ∧ _ ∧ _))

/-- `Accept` is not called again for an id while a call for that id is in progress. -/
def NonOverlapping (m : MuxBroker) : Act → Prop
  | .accept id => ∀ c ∈ m.accepts, c.id = id → c.pc.finished = true
  | _ => True

instance (m : MuxBroker) : ∀ a, Decidable (m.NonOverlapping a)
  | .accept id => inferInstanceAs (Decidable (∀ c ∈ m.accepts, c.id = id → c.pc.finished = true))
  | .run _ | .call _ _ | .wait _ _ => isTrue trivial

theorem DrawnOnce.slots_empty {m : MuxBroker} (h : DrawnOnce m) (hq : m.Quiescent) (p : Nat) :
    m.streams.ch p = none := by
  obtain ⟨-, hidle, hwaits⟩ := hq
  have hwatch : m.run.watches p = 0 := by
    cases hrun : m.run <;> simp_all [RunPc.idle, RunPc.watches]
  have htally : tally (TimeoutWait.watches p) m.waits = 0 := by
    refine tally_eq_zero.mpr fun w hw => ?_
    obtain ⟨id, q, pc⟩ := w
    have := hwaits _ hw
    simp_all [TimeoutWait.watches]
  have hfull := h.owned p
  by_contra hne
  have : m.full p = 1 := by simp [full, Option.isSome_iff_ne_none, hne]
  omega

/-- **Stream conservation.**  In every run in which `Run` never queues a stream in an
    entry that an `Accept` has already drawn from, once all goroutines have come to
    rest every stream taken from the session was received by exactly one `Accept`
    call or closed. -/
theorem streams_disposed_of_queuesUnused {as : List Act} {m : MuxBroker}
    (hguard : Along step QueuesUnused init as) (hrun : exec step init as = some m)
    (hquiet : m.Quiescent) {n : Nat} (hn : n < m.arrived) :
    (m.takers n = 1 ∧ n ∉ m.closed) ∨ (m.takers n = 0 ∧ n ∈ m.closed) := by
  obtain ⟨-, hacc, honce⟩ := drawnOnce_of_exec hguard hrun
  have haccount := hacc n
  have hslots : m.streams.load (fun s => holding n (some s)) = 0 := by
    refine load_eq_zero.mpr fun p s hs => ?_
    rw [honce.slots_empty hquiet p] at hs
    cases hs
  have hhand : holding n m.run.conn = 0 := by
    have hidle := hquiet.2.1
    cases hr : m.run <;> simp_all [RunPc.idle, RunPc.conn]
  simp only [account, hslots, hhand, if_pos hn, Nat.zero_add] at haccount
  have hcount := List.count_eq_zero (l := m.closed) (a := n)
  have hpos := List.count_pos_iff (l := m.closed) (a := n)
  rcases Nat.eq_zero_or_pos (m.closed.count n) with h | h
  · exact Or.inl ⟨by omega, hcount.mp h⟩
  · exact Or.inr ⟨by omega, hpos.mp h⟩

/-- `Run` takes a stream for id 7 up to the start of its `timeoutWait`. -/
def queueSeven : List Act :=
  [.run .acceptStream, .run (.readID (some 7)), .run .getStream, .run .offer, .run .spawn]

/-- The first `Accept(7)` call, from its select to its return. -/
def acceptSeven (i : Nat) : List Act :=
  [.accept 7, .call i .recv, .call i .closeDone, .call i (.ack true)]

/-- One stream for id 7, accepted and cleaned up after. -/
def acceptedRun : List Act :=
  queueSeven ++ acceptSeven 0 ++ [.wait 0 .done, .wait 0 .clean]

theorem streams_disposed_acceptedRun :
    ∃ m, exec step init acceptedRun = some m ∧ m.Quiescent ∧
      ((m.takers 0 = 1 ∧ 0 ∉ m.closed) ∨ (m.takers 0 = 0 ∧ 0 ∈ m.closed)) :=
  ⟨_, rfl, by decide, @streams_disposed_of_queuesUnused acceptedRun _ (by decide) rfl
    (by decide) 0 (by decide)⟩

/-- The second stream for id 7 arrives after the `Accept` of the first has returned and
    before its `timeoutWait` has run.  Both `timeoutWait`s then find `doneCh` closed,
    and the second stream stays open in an entry that is no longer in the table. -/
def leakRun : List Act :=
  queueSeven ++ acceptSeven 0 ++ queueSeven
    ++ [.wait 0 .done, .wait 0 .clean, .wait 1 .done, .wait 1 .clean]

theorem reused_entry_leaks_stream :
    Along step NonOverlapping init leakRun ∧
    (exec step init leakRun).any fun m =>
      m.Quiescent ∧ m.arrived = 2 ∧ m.takers 1 = 0 ∧ 1 ∉ m.closed
        ∧ m.streams.entry 7 = none ∧ m.streams.ch 0 = some 1 := by
  decide

end MuxBroker

end GoPlugin
