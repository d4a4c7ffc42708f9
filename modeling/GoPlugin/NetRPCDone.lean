import GoPlugin.NetRPC

/-!
# The end of a net/rpc plugin

`RPCServer.done` is called by every `Control.Quit` handler and by the accept loop, from any number
of goroutines.  It closes the channel that `Serve` waits for, once.

`RPCClient.Close` returns `nil` only after the plugin was told to end, which `Client.Kill` relies on
when it gives the plugin time to exit instead of killing it.
-/

namespace GoPlugin

open LabelledSystem Tally LockedClose

/-! ### What a `Close` call has done -/

/-- The `Control.Quit` call of this `Close` call was answered. -/
def ClosePc.quits : ClosePc → Bool
  | .calling _ => false
  | .control quit | .stdout quit | .stderr quit | .broker quit => quit
  | .returned ok => ok

namespace RPCConn

/-- What is closed where a `Close` call stands. -/
def ClosedAt (s : RPCConn) : ClosePc → Prop
  | .calling _ | .control _ | .returned false => True
  | .stdout _ => s.controlClosed = true
  | .stderr _ => s.controlClosed = true ∧ s.stdoutClosed = true
  | .broker _ => s.controlClosed = true ∧ s.stdoutClosed = true ∧ s.stderrClosed = true
  | .returned true =>
      s.controlClosed = true ∧ s.stdoutClosed = true ∧ s.stderrClosed = true ∧ s.live = false

/-- Every `Close` call has closed what comes before the place where it stands. -/
def Closing (s : RPCConn) : Prop := ∀ pc ∈ s.closes, s.ClosedAt pc

/-- What is closed stays closed. -/
structure Later (s s' : RPCConn) : Prop where
  control : s.controlClosed = true → s'.controlClosed = true
  stdout : s.stdoutClosed = true → s'.stdoutClosed = true
  stderr : s.stderrClosed = true → s'.stderrClosed = true
  live : s.live = false → s'.live = false

variable {s s' : RPCConn}

theorem Later.same (hcontrol : s'.controlClosed = s.controlClosed)
    (hstdout : s'.stdoutClosed = s.stdoutClosed) (hstderr : s'.stderrClosed = s.stderrClosed)
    (hlive : s'.live = s.live) : Later s s' :=
  ⟨hcontrol.trans, hstdout.trans, hstderr.trans, hlive.trans⟩

theorem Later.closedAt (h : Later s s') {pc : ClosePc} (hpc : s.ClosedAt pc) :
    s'.ClosedAt pc := by
  cases pc with
  | calling _ | control _ => trivial
  | stdout _ => exact h.control hpc
  | stderr _ => exact ⟨h.control hpc.1, h.stdout hpc.2⟩
  | broker _ => exact ⟨h.control hpc.1, h.stdout hpc.2.1, h.stderr hpc.2.2⟩
  | returned ok =>
      cases ok with
      | false => trivial
      | true => exact ⟨h.control hpc.1, h.stdout hpc.2.1, h.stderr hpc.2.2.1, h.live hpc.2.2.2⟩

theorem Closing.later (h : Closing s) (hlater : Later s s') (hcloses : s'.closes = s.closes) :
    Closing s' := by
  intro pc hpc
  rw [hcloses] at hpc
  exact hlater.closedAt (h pc hpc)

/-- One `Close` call goes on, to `pc`. -/
theorem Closing.set (h : Closing s) (hlater : Later s s') {i : Nat} {pc : ClosePc}
    (hcloses : s'.closes = s.closes.set i pc) (hpc : s'.ClosedAt pc) : Closing s' := by
  intro q hq
  rw [hcloses] at hq
  rcases List.mem_or_eq_of_mem_set hq with hold | rfl
  · exact hlater.closedAt (h q hold)
  · exact hpc

theorem Closing.closeNext (h : Closing s) {i : Nat} {pc : ClosePc} (hpc : s.closes[i]? = some pc)
    (hnext : CloseNext s i pc s') : Closing s' := by
  have hat := h pc (List.mem_of_getElem? hpc)
  cases hnext with
  | answered | unanswered => exact h.set (.same rfl rfl rfl rfl) rfl trivial
  | control => exact h.set ⟨fun _ => rfl, fun h => h, fun h => h, fun h => h⟩ rfl rfl
  | stdout => exact h.set ⟨fun h => h, fun _ => rfl, fun h => h, fun h => h⟩ rfl ⟨hat, rfl⟩
  | stderr =>
      exact h.set ⟨fun h => h, fun h => h, fun _ => rfl, fun h => h⟩ rfl ⟨hat.1, hat.2, rfl⟩
  | @broker quit ok =>
      refine h.set ⟨fun h => h, fun h => h, fun h => h, fun _ => rfl⟩ rfl ?_
      cases ok && quit with
      | false => trivial
      | true => exact ⟨hat.1, hat.2.1, hat.2.2, rfl⟩
  | fail hc ho he => exact h.set ⟨hc, ho, he, fun h => h⟩ rfl trivial

theorem Closing.next {cfg : StdioConfig} (h : Closing s) (hnext : Next cfg s s') : Closing s' := by
  have hconcat : ∀ {pc : ClosePc} {t : RPCConn}, Later s t → t.closes = s.closes ++ [pc] →
      t.ClosedAt pc → Closing t := by
    intro pc t hlater hcloses hpc q hq
    rw [hcloses] at hq
    rcases List.mem_append.mp hq with hold | hnew
    · exact hlater.closedAt (h q hold)
    · rw [List.mem_singleton.mp hnew]
      exact hpc
  cases hnext with
  | opened | accepted | syncStreams | send | sendEnds | receive | receiveEnds | write =>
      exact h.later (.same rfl rfl rfl rfl) rfl
  | openFails | acceptFails | hangUp =>
      exact h.later ⟨fun h => h, fun h => h, fun h => h, fun _ => rfl⟩ rfl
  | quit => exact hconcat (.same rfl rfl rfl rfl) rfl trivial
  | quitFails => exact hconcat (.same rfl rfl rfl rfl) rfl trivial
  | close hpc hclose => exact h.closeNext hpc hclose

theorem invariant_closing (cfg : StdioConfig) : NetRPC.ConnInvariant cfg Closing where
  init _ h := by cases h
  next _ _ h hnext := h.next hnext
  request _ _ _ h hreq := by
    obtain ⟨i, x, requests, -, rfl⟩ := request_eq_some hreq
    exact h.later (.same rfl rfl rfl rfl) rfl
  reply s seq h := by
    rcases reply_cases s seq with heq | ⟨i, -, heq⟩
    · rw [heq]
      exact h
    · rw [heq]
      exact h.later (.same rfl rfl rfl rfl) rfl
  feed _ _ _ h := h.later (.same rfl rfl rfl rfl) rfl

/-! ### Before the channel is closed -/

/-- No `Control.Quit` call has been answered. -/
structure Untold (s : RPCConn) : Prop where
  replies : ∀ x ∈ s.streams, x.replies = []
  closes : ∀ pc ∈ s.closes, pc.quits = false

theorem untold_init : Untold init := ⟨by simp [init], by simp [init]⟩

theorem forall_replies_modify {l : List RPCStream} (h : ∀ x ∈ l, x.replies = [])
    {f : RPCStream → RPCStream} (hf : ∀ x, (f x).replies = x.replies) (i : Nat) :
    ∀ x ∈ l.modify i f, x.replies = [] := by
  intro x hx
  obtain ⟨j, hj⟩ := List.mem_iff_getElem?.mp hx
  rw [List.getElem?_modify] at hj
  obtain ⟨y, hy, rfl⟩ := Option.map_eq_some_iff.mp hj
  have hmem := h y (List.mem_of_getElem? hy)
  split
  · rw [hf, hmem]
  · exact hmem

theorem Untold.set (h : Untold s) (hstreams : s'.streams = s.streams) {i : Nat} {pc : ClosePc}
    (hcloses : s'.closes = s.closes.set i pc) (hpc : pc.quits = false) : Untold s' := by
  refine ⟨by rw [hstreams]; exact h.replies, fun q hq => ?_⟩
  rw [hcloses] at hq
  rcases List.mem_or_eq_of_mem_set hq with hold | rfl
  · exact h.closes q hold
  · exact hpc

theorem Untold.closeNext (h : Untold s) {i : Nat} {pc : ClosePc} (hpc : s.closes[i]? = some pc)
    (hnext : CloseNext s i pc s') : Untold s' := by
  have hquits := h.closes pc (List.mem_of_getElem? hpc)
  cases hnext with
  | answered hn hstream hseq =>
      rw [h.replies _ (List.mem_of_getElem? hstream)] at hseq
      cases hseq
  | unanswered => exact h.set rfl rfl rfl
  | control | stdout | stderr => exact h.set rfl rfl hquits
  | broker =>
      refine h.set rfl rfl ?_
      simp only [ClosePc.quits] at hquits ⊢
      rw [hquits, Bool.and_false]
  | fail => exact h.set rfl rfl rfl

theorem Untold.next {cfg : StdioConfig} (h : Untold s) (hnext : Next cfg s s') : Untold s' := by
  have hcloses : ∀ pc ∈ s.closes ++ [ClosePc.control false], pc.quits = false := by
    intro pc hpc
    rcases List.mem_append.mp hpc with hold | hnew
    · exact h.closes pc hold
    · rw [List.mem_singleton.mp hnew]
      rfl
  cases hnext with
  | opened =>
      refine ⟨fun x hx => ?_, h.closes⟩
      rcases List.mem_append.mp hx with hold | hnew
      · exact h.replies x hold
      · rw [List.mem_singleton.mp hnew]
  | openFails | accepted | acceptFails | syncStreams | sendEnds | receiveEnds | write | hangUp =>
      exact ⟨h.replies, h.closes⟩
  | send => exact ⟨forall_replies_modify h.replies (by intro x; rfl) _, h.closes⟩
  | @receive ch n i x hsynced hi hx =>
      refine ⟨fun y hy => ?_, h.closes⟩
      rcases List.mem_or_eq_of_mem_set hy with hold | rfl
      · exact h.replies y hold
      · exact h.replies x (List.mem_of_getElem? hx)
  | quit =>
      refine ⟨forall_replies_modify h.replies (by intro x; rfl) _, fun pc hpc => ?_⟩
      rcases List.mem_append.mp hpc with hold | hnew
      · exact h.closes pc hold
      · rw [List.mem_singleton.mp hnew]
        rfl
  | quitFails => exact ⟨h.replies, hcloses⟩
  | close hpc hclose => exact h.closeNext hpc hclose

theorem Untold.request {seq : Nat} (h : Untold s) (hreq : s.request = some (seq, s')) :
    Untold s' := by
  obtain ⟨i, x, requests, hx, rfl⟩ := request_eq_some hreq
  refine ⟨fun y hy => ?_, h.closes⟩
  rcases List.mem_or_eq_of_mem_set hy with hold | rfl
  · exact h.replies y hold
  · exact h.replies x (List.mem_of_getElem? hx)

end RPCConn

/-! ### The plugin -/

namespace NetRPC

structure Told (s : NetRPC) : Prop where
  guarded : s.doneCh.Sound
  untold : s.doneCh.present = true → ∀ conn ∈ s.conns, conn.Untold
  loop : s.accepting = false → s.doneCh.callers ≠ []
  stopped : s.main ≠ .selecting → s.listening = false
  main : s.main = .returned → s.doneCh.closed = 1

theorem told_init : Told init where
  guarded := Guarded.sound_init
  untold _ := by simp [init]
  loop h := by cases h
  stopped h := absurd rfl h
  main h := by cases h

theorem Told.next {cfg : StdioConfig} {s s' : NetRPC} {a : Act} (h : Told s)
    (hnext : Next cfg s a s') : Told s' := by
  -- one connection is replaced
  have hset : ∀ {c : Nat} {x : RPCConn}, s.doneCh.present = true →
      (x.Untold) → ∀ conn ∈ s.conns.set c x, conn.Untold := by
    intro c x hpresent hx conn hconn
    rcases List.mem_or_eq_of_mem_set hconn with hold | rfl
    · exact h.untold hpresent conn hold
    · exact hx
  cases hnext with
  | print => exact ⟨h.guarded, h.untold, h.loop, h.stopped, h.main⟩
  | connect =>
      refine ⟨h.guarded, fun hpresent conn hconn => ?_, h.loop, h.stopped, h.main⟩
      rcases List.mem_append.mp hconn with hold | hnew
      · exact h.untold hpresent conn hold
      · rw [List.mem_singleton.mp hnew]
        exact RPCConn.untold_init
  | acceptFails =>
      exact ⟨h.guarded.enter, h.untold, fun _ => Guarded.enter_ne_nil _, h.stopped, h.main⟩
  | conn hc hconn =>
      refine ⟨h.guarded, fun hpresent => hset hpresent ?_, h.loop, h.stopped, h.main⟩
      exact (h.untold hpresent _ (List.mem_of_getElem? hc)).next hconn
  | copyRead hc =>
      refine ⟨h.guarded, fun hpresent => hset hpresent ?_, h.loop, h.stopped, h.main⟩
      have huntold := h.untold hpresent _ (List.mem_of_getElem? hc)
      exact ⟨huntold.replies, huntold.closes⟩
  | request hc hreq =>
      refine ⟨h.guarded.enter, fun hpresent => hset hpresent ?_, fun _ => Guarded.enter_ne_nil _,
        h.stopped, h.main⟩
      exact (h.untold hpresent _ (List.mem_of_getElem? hc)).request hreq
  | @done k g hg =>
      refine ⟨h.guarded.step hg, fun hpresent => h.untold (Guarded.present_of_step hg hpresent),
        fun haccepting hnil => ?_, h.stopped, fun hmain => ?_⟩
      · have hlength := Guarded.length_callers_step hg
        rw [hnil] at hlength
        exact h.loop haccepting (List.length_eq_zero_iff.mp hlength.symm)
      · have hle := Guarded.closed_le_of_step hg
        have hone := (h.guarded.step hg).closed_le_one
        rw [h.main hmain] at hle
        exact Nat.le_antisymm hone hle
  | reply hk hc =>
      refine ⟨h.guarded, fun hpresent => ?_, h.loop, h.stopped, h.main⟩
      -- whoever has returned has closed the channel
      have habsent : s.doneCh.present = false := h.guarded.fits _ _ hk
      rw [habsent] at hpresent
      cases hpresent
  | cancel => exact ⟨h.guarded, h.untold, h.loop, fun _ => rfl, fun hmain => by cases hmain⟩
  | main hmain hclosed =>
      refine ⟨h.guarded, h.untold, h.loop, fun _ => rfl, fun _ => ?_⟩
      exact Nat.le_antisymm h.guarded.closed_le_one hclosed

theorem told_of_exec {cfg : StdioConfig} {run : List Act} {s : NetRPC}
    (hrun : exec (step cfg) init run = some s) : Told s :=
  exec_invariant_of_step (fun _ _ _ h hstep => h.next (next_of_step hstep)) told_init hrun

/-- **What a `Close` call that returns `nil` has done.**  In every run, with any number of `Close`
    calls on any number of connections: the plugin's channel is closed, and exactly once, and the
    connection's control stream, output streams and session are closed on the host. -/
theorem close_tells_plugin (cfg : StdioConfig) (run : List Act) {s : NetRPC}
    (hrun : exec (step cfg) init run = some s) {c i : Nat} {conn : RPCConn}
    (hc : s.conns[c]? = some conn) (hi : conn.closes[i]? = some (.returned true)) :
    s.doneCh.closed = 1 ∧ conn.controlClosed = true ∧ conn.stdoutClosed = true ∧
      conn.stderrClosed = true ∧ conn.live = false := by
  have htold := told_of_exec hrun
  have hconn := List.mem_of_getElem? hc
  have hclosing := (RPCConn.invariant_closing cfg).of_exec hrun conn hconn
  refine ⟨?_, hclosing _ (List.mem_of_getElem? hi)⟩
  apply htold.guarded.absent
  cases hpresent : s.doneCh.present with
  | false => rfl
  | true =>
      have hquits := (htold.untold hpresent conn hconn).closes _ (List.mem_of_getElem? hi)
      cases hquits

/-- A host connects, and its `Close` call ends the plugin. -/
def quitting : List Act :=
  connected ++
    [.conn 0 (.close true), .request 0, .done 0, .done 0, .done 0, .done 0, .done 0, .reply 0,
      .conn 0 (.closeNext 0 true), .conn 0 (.closeNext 0 true), .conn 0 (.closeNext 0 true),
      .conn 0 (.closeNext 0 true), .conn 0 (.closeNext 0 true)]

theorem close_tells_plugin_quitting :
    ∃ s, exec (step allStdio) init quitting = some s ∧ s.doneCh.closed = 1 :=
  ⟨_, rfl, (close_tells_plugin allStdio quitting rfl (c := 0) (i := 0) rfl rfl).1⟩

/-! ### The plugin ends -/

/-- The steps that the plugin takes by itself.  `Accept` fails because the listener is closed. -/
def settling (cfg : StdioConfig) (s : NetRPC) : Act → Option NetRPC
  | .acceptFails => if s.listening then none else s.step cfg .acceptFails
  | .done k => s.step cfg (.done k)
  | .main => s.step cfg .main
  | _ => none

def stepsLeft (s : NetRPC) : Nat :=
  s.doneCh.stepsLeft + (if s.accepting then 6 else 0) + (if s.main = .returned then 0 else 1)

theorem step_of_settling {cfg : StdioConfig} {s s' : NetRPC} {a : Act}
    (h : s.settling cfg a = some s') : s.step cfg a = some s' := by
  cases a with
  | acceptFails =>
      simp only [settling] at h
      split at h
      · cases h
      · exact h
  | done k => exact h
  | main => exact h
  | print | connect | conn | copyRead | request | reply | cancel => cases h

theorem stepsLeft_settling {cfg : StdioConfig} {s s' : NetRPC} {a : Act}
    (h : s.settling cfg a = some s') : s'.stepsLeft < s.stepsLeft := by
  have hnext := next_of_step (step_of_settling h)
  cases a with
  | acceptFails =>
      cases hnext with
      | acceptFails haccepting =>
          simp only [stepsLeft, haccepting, Guarded.stepsLeft_enter]
          simp
  | done k =>
      cases hnext with
      | done hg =>
          have := Guarded.stepsLeft_step hg
          simp only [stepsLeft]
          omega
  | main =>
      cases hnext with
      | main hmain =>
          simp only [stepsLeft, if_neg hmain]
          simp
  | print | connect | conn | copyRead | request | reply | cancel => cases h

/-- Somebody has asked the plugin to end. -/
def Ending (s : NetRPC) : Prop := s.doneCh.callers ≠ [] ∨ s.main ≠ .selecting

theorem Ending.settling {cfg : StdioConfig} {s s' : NetRPC} {a : Act} (h : Ending s)
    (hstep : s.settling cfg a = some s') : Ending s' := by
  have hnext := next_of_step (step_of_settling hstep)
  cases a with
  | acceptFails =>
      cases hnext with
      | acceptFails => exact Or.inl (Guarded.enter_ne_nil _)
  | done k =>
      cases hnext with
      | done hg =>
          refine h.imp_left fun hne hnil => ?_
          have hlength := Guarded.length_callers_step hg
          rw [hnil] at hlength
          exact hne (List.length_eq_zero_iff.mp hlength.symm)
  | main =>
      cases hnext with
      | main => exact Or.inr (by simp)
  | print | connect | conn | copyRead | request | reply | cancel => cases hstep

/-- Where nothing is left to do, `Serve` has returned. -/
theorem Told.finished {cfg : StdioConfig} {s : NetRPC} (h : Told s) (hending : Ending s)
    (hstuck : ∀ a, s.settling cfg a = none) :
    s.main = .returned ∧ s.doneCh.closed = 1 ∧ ∀ pc ∈ s.doneCh.callers, pc = .returned := by
  have hcalls : ∀ k, s.doneCh.step k = none := by
    intro k
    simpa [NetRPC.settling, NetRPC.step] using hstuck (.done k)
  have hall : ∀ pc ∈ s.doneCh.callers, pc = .returned := by
    intro pc hpc
    obtain ⟨k, hk⟩ := List.mem_iff_getElem?.mp hpc
    exact h.guarded.all_returned hcalls hk
  have hclosed : s.doneCh.callers ≠ [] → s.doneCh.closed = 1 := by
    intro hne
    obtain ⟨pc, rest, hcallers⟩ := List.exists_cons_of_ne_nil hne
    have hfirst : s.doneCh.callers[0]? = some pc := by rw [hcallers]; rfl
    rw [hall pc (List.mem_of_getElem? hfirst)] at hfirst
    exact h.guarded.closed_of_returned hfirst
  have hmain : s.doneCh.closed = 1 → s.main = .returned := by
    intro hone
    by_contra hne
    have hstep := hstuck .main
    simp [NetRPC.settling, NetRPC.step, hne, hone] at hstep
  have hone : s.doneCh.closed = 1 := by
    rcases hending with hne | hne
    · exact hclosed hne
    · -- the listener is closed, so the accept loop has ended and called `done`
      have hlistening := h.stopped hne
      have haccept := hstuck .acceptFails
      cases haccepting : s.accepting with
      | false => exact hclosed (h.loop haccepting)
      | true => simp [NetRPC.settling, NetRPC.step, hlistening, haccepting] at haccept
  exact ⟨hmain hone, hone, hall⟩

/-- **A plugin that is asked to end does.**  In every run in which a `Control.Quit` call was read,
    the accept loop ended or the context was cancelled: however the plugin's goroutines go on from
    there, they take a bounded number of steps, and when none is left, `Serve` has returned, the
    channel was closed once and no `done` call is stuck in the lock. -/
theorem quit_ends_serve (cfg : StdioConfig) (run : List Act) {s : NetRPC}
    (hrun : exec (step cfg) init run = some s) (hending : Ending s) (rest : List Act)
    {s' : NetRPC} (hrest : exec (settling cfg) s rest = some s') :
    rest.length ≤ s.stepsLeft ∧
      ((∀ a, s'.settling cfg a = none) → s'.main = .returned ∧ s'.doneCh.closed = 1 ∧
        ∀ pc ∈ s'.doneCh.callers, pc = .returned) := by
  have hstep : ∀ (t : NetRPC) a t', Told t ∧ Ending t → t.settling cfg a = some t' →
      (Told t' ∧ Ending t') ∧ t'.stepsLeft < t.stepsLeft := by
    rintro t a t' ⟨htold, hend⟩ ht
    exact ⟨⟨htold.next (next_of_step (step_of_settling ht)), hend.settling ht⟩,
      stepsLeft_settling ht⟩
  have hs : Told s ∧ Ending s := ⟨told_of_exec hrun, hending⟩
  refine ⟨?_, fun hstuck => ?_⟩
  · have := length_add_le_of_exec hstep hs hrest
    omega
  · obtain ⟨htold, hend⟩ :=
      exec_invariant_of_step (fun t a t' ht h => (hstep t a t' ht h).1) hs hrest
    exact htold.finished hend hstuck

/-- Two `Close` calls of a host at the same time. -/
def quittingTwice : List Act :=
  connected ++ [.conn 0 (.close true), .conn 0 (.close true), .request 0, .request 0]

/-- The second one's handler comes first; the accept loop ends with the listener. -/
def ended : List Act :=
  List.replicate 5 (.done 1) ++ List.replicate 3 (.done 0) ++ [.main, .acceptFails] ++
    List.replicate 3 (.done 2)

theorem quit_ends_serve_twice :
    ∃ s s', exec (step allStdio) init quittingTwice = some s ∧
      exec (settling allStdio) s ended = some s' ∧ s'.main = .returned := by
  refine ⟨_, _, rfl, rfl, ?_⟩
  refine ((quit_ends_serve allStdio quittingTwice rfl (Or.inl (by decide)) ended rfl).2 ?_).1
  intro a
  match a with
  | .done 0 | .done 1 | .done 2 | .done (k + 3) => rfl
  | .print _ _ | .connect | .acceptFails | .conn _ _ | .copyRead _ _ _ | .request _ | .reply _
  | .cancel | .main => rfl

end NetRPC

end GoPlugin
