import GoPlugin.ClientLifecycle

/-!
# Killing a client (`Client.Kill`)

The body of `Kill` clears `c.runner` and returns after `clientWaitGroup.Wait`, so behind that
point every waiter has set `exited`: a late `Kill` call may return because the once is over or
because the runner is gone, and the plugin has exited either way.

The wait group keeps its zero as long as `Start` launches nothing.  With an address, or with a
command whose pipes are taken, it never will; with `RunnerFunc` and no address it may.
-/

namespace GoPlugin

open Tally LabelledSystem

/-- What the body has counted. -/
def OncePc.runs : OncePc → Nat
  | .idle | .running _ .counting => 0
  | _ => 1

theorem OncePc.runs_le_one (o : OncePc) : o.runs ≤ 1 := by
  unfold OncePc.runs
  split <;> omega

theorem OncePc.runs_running {t : Nat} {pc : BodyPc} (h : pc ≠ .counting) :
    (OncePc.running t pc).runs = 1 := by
  cases pc <;> first | rfl | exact absurd rfl h

namespace RunnerState

/-- What a waiter's place says about its plugin and the client. -/
structure Sound (r : RunnerState) (exited : Bool) : Prop where
  off : r.waiter = .off → r.running = false
  reaped : r.waiter.reaped = true → r.running = false
  past : r.waiter.past = true → exited = true

theorem past_of_members_eq_zero {r : RunnerState} (h : r.members = 0) :
    r.waiter = .off ∨ r.waiter.past = true := by
  have hwaiter : r.waiter.member r.attached = 0 := by
    unfold members at h
    omega
  cases hw : r.waiter with
  | off => exact Or.inl rfl
  | group _ | cancelling _ | finished => exact Or.inr rfl
  | starting | pipes _ | waiting _ | locking _ =>
      rw [hw] at hwaiter
      cases hwaiter

theorem Sound.stopped {r : RunnerState} {exited : Bool} (h : r.Sound exited)
    (hzero : r.members = 0) : r.running = false := by
  rcases past_of_members_eq_zero hzero with hoff | hpast
  · exact h.off hoff
  · apply h.reaped
    revert hpast
    cases r.waiter <;> simp [WaiterPc.past, WaiterPc.reaped]

end RunnerState

namespace Client

/-- The body is past `clientWaitGroup.Wait`, or over. -/
def late (s : Client) : Bool :=
  match s.killOnce with
  | .idle => false
  | .running _ pc => pc.late
  | .done => true

/-! ### The wait group -/

/-- The wait group counts the goroutines that are left, and an address comes with a waiter. -/
structure Tracked (s : Client) : Prop where
  group : s.clientWaitGroup = tally RunnerState.members s.runners
  sound : ∀ (n : Nat) r, s.runners[n]? = some r → r.Sound s.exited
  address : ∀ n, s.address = some n → ∃ r, s.runners[n]? = some r ∧ r.waiter ≠ .off
  runs : s.killBodyRuns = s.killOnce.runs

theorem tracked_newClient (cfg : LaunchConfig) (others : List Nat) :
    Tracked (newClient cfg others) := by
  constructor <;> simp [newClient, OncePc.runs]

theorem Tracked.create {cfg : LaunchConfig} {s s' : Client} {o : StartOutcome} {r : RunnerState}
    (h : Tracked s) (hc : Created cfg s s' o r) : Tracked s' where
  group := by
    rw [hc.group, hc.runners, tally_append, tally_cons, tally_nil, h.group, Nat.add_zero]
  sound n q hq := by
    rw [hc.runners] at hq
    rw [hc.exited]
    rcases getElem?_concat_cases hq with hold | ⟨-, rfl⟩
    · exact h.sound n q hold
    · rcases hc.fresh with ⟨hoff, hstopped⟩ | hstarting
      · exact ⟨fun _ => hstopped, fun _ => hstopped, by simp [hoff, WaiterPc.past]⟩
      · constructor <;> simp [hstarting, WaiterPc.reaped, WaiterPc.past]
  address n hn := by
    rcases hc.address with hnone | ⟨hsome, hstarting, -⟩
    · rw [hnone] at hn
      cases hn
    · rw [hsome] at hn
      cases hn
      exact ⟨r, by rw [hc.runners, List.getElem?_concat_length], by simp [hstarting]⟩
  runs := by rw [hc.killBodyRuns, hc.killOnce, h.runs]

theorem Tracked.setRunner {s : Client} {n : Nat} {r r' : RunnerState} {wg pipes : Nat}
    {marked : Bool} {cancelled : List Nat} (h : Tracked s) (hr : s.runners[n]? = some r)
    (hnext : RunnerNext s r r' wg marked) :
    Tracked { s with
      clientWaitGroup := wg
      pipesWaitGroup := pipes
      exited := marked
      cancelled := cancelled
      runners := s.runners.set n r' } where
  group := by
    have hset := tally_set RunnerState.members r' hr
    have hle := le_tally RunnerState.members hr
    have hgroup := h.group
    dsimp only
    rcases hnext.group with ⟨hmembers, rfl⟩ | ⟨hmembers, rfl⟩ <;> omega
  sound m q hq := by
    rcases getElem?_set_cases hq with ⟨rfl, rfl⟩ | ⟨-, hold⟩
    · have hs := h.sound _ r hr
      have hstopped : r.running = false → q.running = false := by
        intro hfalse
        by_contra htrue
        rw [hnext.running (Bool.not_eq_false _ ▸ htrue)] at hfalse
        cases hfalse
      refine ⟨fun hoff => hstopped (hs.off (hnext.off.mp hoff)), fun hreaped => ?_, fun hpast => ?_⟩
      · exact hstopped ((hnext.reaped hreaped).elim hs.reaped id)
      · exact (hnext.past hpast).elim (fun hp => hnext.exited (hs.past hp)) id
    · have hs := h.sound m q hold
      exact ⟨hs.off, hs.reaped, fun hp => hnext.exited (hs.past hp)⟩
  address m hm := by
    obtain ⟨q, hq, hoff⟩ := h.address m hm
    rcases getElem?_set_of_some hq n r' with ⟨rfl, hnew⟩ | ⟨-, hold⟩
    · cases hr.symm.trans hq
      exact ⟨r', hnew, fun hw => hoff (hnext.off.mp hw)⟩
    · exact ⟨q, hold, hoff⟩
  runs := h.runs

theorem Tracked.move {cfg : LaunchConfig} {s s' : Client} {a : Act} (h : Tracked s)
    (hmove : Move cfg s a s') : Tracked s' := by
  have hruns := h.runs
  cases hmove with
  | create hc => exact h.create hc
  | goroutine hr hnext => exact h.setRunner hr hnext
  | stay | kill | gateNone | gateSome | pass => exact ⟨h.group, h.sound, h.address, h.runs⟩
  | win hc ho | count ho | leave ho | wait ho | finish ho =>
      rw [ho] at hruns
      refine ⟨h.group, h.sound, h.address, ?_⟩
      simpa [Client.leave, OncePc.runs] using hruns
  | advance ho hpc _ hpc' =>
      rw [ho, OncePc.runs_running hpc] at hruns
      exact ⟨h.group, h.sound, h.address, hruns.trans (OncePc.runs_running hpc').symm⟩
  | @tidy _ _ pc pc' _ _ ho hlate hlate' =>
      have hcounting : ∀ {q : BodyPc}, q.late = true → q ≠ .counting := by
        rintro q hq rfl
        cases hq
      rw [ho, OncePc.runs_running (hcounting hlate)] at hruns
      exact ⟨h.group, h.sound, h.address,
        hruns.trans (OncePc.runs_running (hcounting hlate')).symm⟩

theorem Tracked.stopped {s : Client} (h : Tracked s) (hgroup : s.clientWaitGroup = 0) :
    ∀ r ∈ s.runners, r.running = false := by
  intro r hr
  rw [h.group, tally_eq_zero] at hgroup
  obtain ⟨n, hn⟩ := List.mem_iff_getElem?.mp hr
  exact (h.sound n r hn).stopped (hgroup r hr)

theorem Tracked.exited_eq_true {s : Client} (h : Tracked s) (hgroup : s.clientWaitGroup = 0)
    (haddress : s.address.isSome = true) : s.exited = true := by
  obtain ⟨n, hn⟩ := Option.isSome_iff_exists.mp haddress
  obtain ⟨r, hr, hoff⟩ := h.address n hn
  rw [h.group, tally_eq_zero] at hgroup
  rcases RunnerState.past_of_members_eq_zero (hgroup r (List.mem_of_getElem? hr)) with hw | hpast
  · exact absurd hw hoff
  · exact (h.sound n r hr).past hpast

/-! ### Nothing is launched any more -/

theorem Move.barred {cfg : LaunchConfig} {s s' : Client} {a : Act} (h : Move cfg s a s')
    (hbarred : s.barred cfg = true) : s'.barred cfg = true ∧ s'.runners.length = s.runners.length ∧
      s'.address = s.address := by
  cases h with
  | create hc =>
      rw [hc.opened] at hbarred
      cases hbarred
  | stay hpiped =>
      refine ⟨?_, rfl, rfl⟩
      simp only [Client.barred, Bool.or_eq_true, Bool.and_eq_true] at hbarred ⊢
      exact hbarred.imp id (And.imp id hpiped)
  | goroutine => exact ⟨hbarred, List.length_set, rfl⟩
  | _ => exact ⟨hbarred, rfl, rfl⟩

/-- Behind `clientWaitGroup.Wait` there is no way back, and no more commands are given. -/
theorem Move.late {cfg : LaunchConfig} {s s' : Client} {a : Act} (h : Move cfg s a s')
    (hbarred : s.barred cfg = true) (hlate : s.late = true) :
    s'.late = true ∧ s'.commands = s.commands := by
  cases h with
  | create hc =>
      rw [hc.opened] at hbarred
      cases hbarred
  | win _ ho | count ho | leave ho | wait ho => simp [Client.late, ho, BodyPc.late] at hlate
  | advance ho _ hearly => simp [Client.late, ho, hearly] at hlate
  | tidy ho _ hlate' => exact ⟨hlate', rfl⟩
  | finish => exact ⟨rfl, rfl⟩
  | _ => exact ⟨hlate, rfl⟩

/-! ### What `Kill` relies on -/

/-- Whoever passes the gate of `Kill`, or the once, finds a client that launches nothing any
    more, with a runner that has an id. -/
structure Sealed (cfg : LaunchConfig) (s : Client) : Prop where
  gate : ∀ t : Nat, s.calls[t]? = some .once → s.barred cfg = true
  once : s.killOnce ≠ .idle → s.barred cfg = true
  named : ∀ (n : Nat) r, s.runner = some n → s.runners[n]? = some r →
    s.address.isSome = true ∨ cfg.mode = .cmd → r.id ≠ []
  waited : s.late = true → s.clientWaitGroup = 0
  cleared : s.runner = none → s.runners = [] ∨ s.late = true

/-- The runner of a `Start` that succeeds has an id. -/
def StartOutcome.named : StartOutcome → Bool
  | .ok id => !id.isEmpty
  | _ => true

/-- A `Kill` call that finds a runner finds an address, or a command that cannot be started
    again; started runners have ids. -/
def permits (cfg : LaunchConfig) (s : Client) : Act → Bool
  | .start o => o.named
  | .call t => s.calls[t]? != some .entering || s.runner.isNone || s.barred cfg
  | _ => true

theorem Sealed.create {cfg : LaunchConfig} {s s' : Client} {o : StartOutcome} {r : RunnerState}
    (h : Sealed cfg s) (hmode : cfg.mode ≠ .reattach true) (hnamed : o.named = true)
    (hc : Created cfg s s' o r) : Sealed cfg s' := by
  have hopened := hc.opened
  have hidle : s.killOnce = .idle := by
    by_contra hne
    rw [h.once hne] at hopened
    cases hopened
  have hlate : s'.late = false := by simp [Client.late, hc.killOnce, hidle]
  have hrunner := hc.runner.resolve_right hmode
  constructor
  · intro t ht
    rw [hc.calls] at ht
    rw [h.gate t ht] at hopened
    cases hopened
  · intro hne
    rw [hc.killOnce] at hne
    exact absurd hidle hne
  · intro n q hn hq hcase
    rw [hrunner] at hn
    cases hn
    rw [hc.runners, List.getElem?_concat_length] at hq
    cases hq
    rcases hcase with haddress | hcmd
    · rcases hc.address with hnone | ⟨-, -, rfl⟩
      · rw [hnone] at haddress
        cases haddress
      · simpa [StartOutcome.named] using hnamed
    · exact (hc.piped hcmd).2
  · intro hl
    rw [hlate] at hl
    cases hl
  · intro hnone
    rw [hrunner] at hnone
    cases hnone

theorem barred_cases {cfg : LaunchConfig} {s : Client} (h : s.barred cfg = true) :
    s.address.isSome = true ∨ cfg.mode = .cmd := by
  simp only [Client.barred, Bool.or_eq_true, Bool.and_eq_true, beq_iff_eq] at h
  exact h.imp id And.left

theorem Sealed.move {cfg : LaunchConfig} {s s' : Client} {a : Act} (h : Sealed cfg s)
    (htracked : Tracked s)
    (hok : s.barred cfg = true ∨ (cfg.mode ≠ .reattach true ∧ s.permits cfg a = true))
    (hmove : Move cfg s a s') : Sealed cfg s' := by
  -- whoever has passed the gate is safe from another launch, also after this step
  have hbarred : s.barred cfg = true → s'.barred cfg = true := fun hb => (hmove.barred hb).1
  have hearly : ∀ {t pc}, s.killOnce = .running t pc → pc.late = false → s.runner = none →
      s.runners = [] := by
    intro t pc ho hpc hnone
    refine (h.cleared hnone).resolve_right ?_
    simp [Client.late, ho, hpc]
  have honce : ∀ {t pc}, s.killOnce = .running t pc → s.barred cfg = true := by
    intro t pc ho
    exact h.once (by simp [ho])
  have hreturned : ∀ t i : Nat, (s.calls.set t .returned)[i]? = some .once →
      s.barred cfg = true := by
    intro t i hi
    rcases getElem?_set_cases hi with ⟨-, hnew⟩ | ⟨-, hold⟩
    · cases hnew
    · exact h.gate i hold
  cases hmove with
  | create hc =>
      rcases hok with hb | ⟨hmode, hpermits⟩
      · rw [hc.opened] at hb
        cases hb
      · exact h.create hmode hpermits hc
  | stay =>
      exact ⟨fun t ht => hbarred (h.gate t ht), fun ho => hbarred (h.once ho), h.named, h.waited,
        h.cleared⟩
  | @goroutine _ m r r' wg _ _ _ hr hnext =>
      refine ⟨h.gate, h.once, ?_, ?_, ?_⟩
      · intro n q hn hq hcase
        rcases getElem?_set_cases hq with ⟨rfl, rfl⟩ | ⟨-, hold⟩
        · rw [hnext.id]
          exact h.named _ r hn hr hcase
        · exact h.named n q hn hold hcase
      · intro hlate
        have hzero := h.waited hlate
        dsimp only
        rcases hnext.group with ⟨-, rfl⟩ | ⟨-, rfl⟩ <;> omega
      · intro hnone
        refine (h.cleared hnone).imp (fun hnil => ?_) id
        rw [hnil] at hr
        cases hr
  | kill =>
      refine ⟨fun t ht => ?_, h.once, h.named, h.waited, h.cleared⟩
      rcases getElem?_concat_cases ht with hold | ⟨-, hnew⟩
      · exact h.gate t hold
      · cases hnew
  | gateNone hc | pass hc => exact ⟨hreturned _, h.once, h.named, h.waited, h.cleared⟩
  | gateSome hc hr =>
      refine ⟨fun t ht => ?_, h.once, h.named, h.waited, h.cleared⟩
      rcases getElem?_set_cases ht with - | ⟨-, hold⟩
      · rcases hok with hb | ⟨-, hpermits⟩
        · exact hb
        · have hb : s.barred cfg = true := by simpa [permits, hc, hr] using hpermits
          exact hb
      · exact h.gate t hold
  | win hc ho =>
      refine ⟨h.gate, fun _ => h.gate _ hc, h.named, by simp [Client.late, BodyPc.late], ?_⟩
      exact fun hnone => Or.inl ((h.cleared hnone).resolve_right (by simp [Client.late, ho]))
  | count ho =>
      exact ⟨h.gate, fun _ => honce ho, h.named, by simp [Client.late, BodyPc.late],
        fun hnone => Or.inl (hearly ho rfl hnone)⟩
  | @leave t ok ho hleave =>
      refine ⟨hreturned t, fun _ => honce ho, h.named, fun _ => ?_, fun _ => Or.inr rfl⟩
      rcases hleave with hnone | ⟨n, r, hn, hr, hid⟩
      · have hgroup := htracked.group
        rw [hearly ho rfl hnone] at hgroup
        exact hgroup
      · exact absurd hid (h.named n r hn hr (barred_cases (honce ho)))
  | advance ho _ hearlyPc _ hearlyPc' =>
      refine ⟨h.gate, fun _ => honce ho, h.named, fun hlate => ?_,
        fun hnone => Or.inl (hearly ho hearlyPc hnone)⟩
      exact absurd hlate (by simp [Client.late, hearlyPc'])
  | wait ho hgroup =>
      exact ⟨h.gate, fun _ => honce ho, h.named, fun _ => hgroup, fun _ => Or.inr rfl⟩
  | tidy ho hlate hlate' hrunner =>
      refine ⟨h.gate, fun _ => honce ho, fun n r hn hr hcase => ?_, fun _ => ?_,
        fun _ => Or.inr hlate'⟩
      · rcases hrunner with rfl | rfl
        · exact h.named n r hn hr hcase
        · cases hn
      · exact h.waited (by simp [Client.late, ho, hlate])
  | finish ho =>
      refine ⟨hreturned _, fun _ => honce ho, h.named, fun _ => ?_, fun _ => Or.inr rfl⟩
      exact h.waited (by simp [Client.late, ho, BodyPc.late])

/-! ### `Kill` under any concurrency -/

/-- What holds once a `Start` call has succeeded with the body of `Kill` not run.  Of the `Kill`
    calls, those from the `m`-th on count. -/
structure Killable (cfg : LaunchConfig) (m : Nat) (s : Client) : Prop where
  tracked : Tracked s
  sealed : Sealed cfg s
  address : s.address.isSome = true
  answered : ∀ t : Nat, m ≤ t → s.calls[t]? = some .returned → s.late = true

theorem Killable.barred {cfg : LaunchConfig} {m : Nat} {s : Client} (h : Killable cfg m s) :
    s.barred cfg = true := by
  simp [Client.barred, h.address]

/-- A `Kill` call that finds no runner finds the body past its wait. -/
theorem Killable.late_of_runner {cfg : LaunchConfig} {m : Nat} {s : Client}
    (h : Killable cfg m s) (hnone : s.runner = none) : s.late = true := by
  refine (h.sealed.cleared hnone).resolve_left fun hnil => ?_
  obtain ⟨n, hn⟩ := Option.isSome_iff_exists.mp h.address
  obtain ⟨r, hr, -⟩ := h.tracked.address n hn
  rw [hnil] at hr
  cases hr

theorem Killable.move {cfg : LaunchConfig} {m : Nat} {s s' : Client} {a : Act}
    (h : Killable cfg m s) (hmove : Move cfg s a s') : Killable cfg m s' := by
  have hold := hmove.barred h.barred
  refine ⟨h.tracked.move hmove, h.sealed.move h.tracked (Or.inl h.barred) hmove,
    hold.2.2 ▸ h.address, fun t ht hret => ?_⟩
  have hkeep : s.calls[t]? = some .returned → s'.late = true := fun hret =>
    (hmove.late h.barred (h.answered t ht hret)).1
  cases hmove with
  | create hc =>
      rw [hc.calls] at hret
      exact hkeep hret
  | kill =>
      rcases getElem?_concat_cases hret with hret | ⟨-, hnew⟩
      · exact hkeep hret
      · cases hnew
  | gateNone hc hr =>
      rcases getElem?_set_cases hret with - | ⟨-, hret⟩
      · exact h.late_of_runner hr
      · exact hkeep hret
  | gateSome hc hr =>
      rcases getElem?_set_cases hret with ⟨-, hnew⟩ | ⟨-, hret⟩
      · cases hnew
      · exact hkeep hret
  | pass hc ho =>
      rcases getElem?_set_cases hret with - | ⟨-, hret⟩
      · simp [Client.late, ho]
      · exact hkeep hret
  | leave | finish => rfl
  | _ => exact hkeep hret

theorem Killable.quiet {cfg : LaunchConfig} {m : Nat} {s s' : Client} {as : List Act}
    (h : Killable cfg m s) (hlate : s.late = true) (hrun : exec (step cfg) s as = some s') :
    s'.commands = s.commands := by
  have hinv : ∀ t a t', (t.late = true ∧ t.barred cfg = true ∧ t.commands = s.commands) →
      step cfg t a = some t' →
      t'.late = true ∧ t'.barred cfg = true ∧ t'.commands = s.commands := by
    rintro t a t' ⟨hl, hb, hc⟩ hstep
    have hmove := move_of_step hstep
    have hnext := hmove.late hb hl
    exact ⟨hnext.1, (hmove.barred hb).1, hnext.2.trans hc⟩
  exact (exec_invariant_of_step hinv ⟨hlate, h.barred, rfl⟩ hrun).2.2

theorem tracked_of_exec {cfg : LaunchConfig} {others : List Nat} {as : List Act} {s : Client}
    (hrun : exec (step cfg) (newClient cfg others) as = some s) : Tracked s :=
  exec_invariant_of_step (fun _ _ _ ht hstep => ht.move (move_of_step hstep))
    (tracked_newClient cfg others) hrun

/-- **`Kill` is safe under any concurrency.**  Take any history at whose end `s` the client has an
    address and a runner with an id, and the body of `Kill` has not run, as when no `Kill` call
    came before `Start` succeeded.  However the run goes on, the body runs at most once, and when
    a later `Kill` call has returned, the body has run, `Exited` reports true, and neither
    `runner.Kill` nor `client.Close` is called any more. -/
theorem kill_returns_exited {cfg : LaunchConfig} {others : List Nat} {as bs : List Act}
    {s s' : Client} {n : Nat} {r : RunnerState}
    (hrun : exec (step cfg) (newClient cfg others) as = some s)
    (haddress : s.address.isSome = true) (hrunner : s.runner = some n)
    (hr : s.runners[n]? = some r) (hid : r.id ≠ []) (hidle : s.killOnce = .idle)
    (hrun' : exec (step cfg) s bs = some s') :
    s'.killBodyRuns ≤ 1 ∧
      ∀ t : Nat, s.calls.length ≤ t → s'.calls[t]? = some .returned →
        s'.killBodyRuns = 1 ∧ s'.exited = true ∧
          ∀ cs s'', exec (step cfg) s' cs = some s'' → s''.commands = s'.commands := by
  have htracked := tracked_of_exec hrun
  have hbarred : s.barred cfg = true := by simp [Client.barred, haddress]
  have hstart : Killable cfg s.calls.length s := by
    refine ⟨htracked, ⟨fun _ _ => hbarred, fun _ => hbarred, ?_, ?_, ?_⟩, haddress, ?_⟩
    · intro m q hm hq _
      rw [hrunner] at hm
      cases hm
      cases hr.symm.trans hq
      exact hid
    · intro hlate
      simp [Client.late, hidle] at hlate
    · intro hnone
      rw [hrunner] at hnone
      cases hnone
    · intro t ht hret
      rw [List.getElem?_eq_none ht] at hret
      cases hret
  have h : Killable cfg s.calls.length s' :=
    exec_invariant_of_step (fun _ _ _ hk hstep => hk.move (move_of_step hstep)) hstart hrun'
  refine ⟨h.tracked.runs ▸ OncePc.runs_le_one _, fun t ht hret => ?_⟩
  have hlate := h.answered t ht hret
  refine ⟨?_, h.tracked.exited_eq_true (h.sealed.waited hlate) h.address,
    fun cs s'' hcs => h.quiet hlate hcs⟩
  rw [h.tracked.runs]
  revert hlate
  unfold Client.late
  cases s'.killOnce with
  | idle => simp
  | done => exact fun _ => rfl
  | running u pc =>
      intro hlate
      refine OncePc.runs_running ?_
      rintro rfl
      cases hlate

/-- Two `Kill` calls meet while the plugin refuses to close; a third one comes when the runner
    has been cleared. -/
def killThrice : List Act :=
  [.kill, .kill, .call 0, .call 1, .call 0, .body true, .body true, .body true, .body false,
    .body true, .body true, .exit 0, .goroutine 0 .stderr, .goroutine 0 .stderr,
    .goroutine 0 .stderr, .goroutine 0 (.scanner true), .goroutine 0 .drainer,
    .goroutine 0 (.scanner false), .goroutine 0 (.scanner false), .goroutine 0 (.scanner false),
    .goroutine 0 (.scanner false), .goroutine 0 .drainer, .goroutine 0 .drainer,
    .goroutine 0 .waiter, .goroutine 0 .waiter, .goroutine 0 .waiter, .goroutine 0 .waiter,
    .goroutine 0 .waiter, .body true, .body true, .body true, .kill, .call 2]

theorem kill_returns_exited_thrice :
    ∃ s s', exec (step ⟨.cmd, false, 0⟩) (newClient ⟨.cmd, false, 0⟩ []) [.start (.ok [55])] =
        some s ∧
      exec (step ⟨.cmd, false, 0⟩) s killThrice = some s' ∧
      s'.calls = [.once, .once, .returned] ∧ s'.commands = [.close, .kill 0] ∧
      s'.killBodyRuns = 1 ∧ s'.exited = true ∧
      ∀ cs s'', exec (step ⟨.cmd, false, 0⟩) s' cs = some s'' → s''.commands = s'.commands :=
  ⟨_, _, rfl, rfl, rfl, rfl,
    (@kill_returns_exited ⟨.cmd, false, 0⟩ [] [.start (.ok [55])] killThrice _ _ 0
      (.launched [55]) rfl rfl rfl rfl (by decide) rfl rfl).2 2 (by decide) rfl⟩

/-- A `Kill` call from its beginning to its end, on a client without an address. -/
def killToEnd (t : Nat) : List Act :=
  [.kill, .call t, .call t, .body true, .body true, .body true, .body true, .body true, .body true,
    .body true, .body true]

/-- With `RunnerFunc`, `runner.Start` fails in a first `Start` call, the client is killed, and a
    second `Start` call succeeds.  A `Kill` call made then finds the once over: it returns with
    `Exited` false, the plugin running and no command given. -/
theorem kill_after_restart_not_exited :
    ∃ s s', exec (step ⟨.runnerFunc, false, 0⟩) (newClient ⟨.runnerFunc, false, 0⟩ [])
        (.start (.noStart [49]) :: killToEnd 0 ++ [.start (.ok [50])]) = some s ∧
      s.address = some 1 ∧ s.runner = some 1 ∧ s.runners[1]? = some (.launched [50]) ∧
      exec (step ⟨.runnerFunc, false, 0⟩) s [.kill, .call 1, .call 1] = some s' ∧
      s'.calls[1]? = some .returned ∧ s'.exited = false ∧
      s'.runners[1]?.map RunnerState.running = some true ∧ s'.commands = s.commands :=
  ⟨_, _, rfl, rfl, rfl, rfl, rfl, rfl, rfl, rfl, rfl⟩

/-! ### A killed client does not launch again -/

/-- **A killed client never launches again,** provided that a `Kill` call that finds a runner
    finds an address or a command, and that started runners have ids.  And where `Kill` would
    return without doing anything, no plugin of the client runs. -/
theorem killed_never_launches {cfg : LaunchConfig} {others : List Nat} {as : List Act}
    {s : Client} (hmode : cfg.mode = .cmd ∨ cfg.mode = .runnerFunc)
    (hguard : Along (step cfg) (fun s a => s.permits cfg a = true) (newClient cfg others) as)
    (hrun : exec (step cfg) (newClient cfg others) as = some s) :
    (0 < s.killBodyRuns → ∀ bs s', exec (step cfg) s bs = some s' →
      s'.runners.length = s.runners.length) ∧
    (s.runner = none ∨ s.killOnce = .done → ∀ r ∈ s.runners, r.running = false) := by
  have hmode' : cfg.mode ≠ .reattach true := by
    rcases hmode with hm | hm <;> simp [hm]
  have hinit : Sealed cfg (newClient cfg others) := by
    constructor <;> simp [newClient, Client.late]
  have hstep : ∀ t a t', Tracked t ∧ Sealed cfg t → t.permits cfg a = true →
      step cfg t a = some t' → Tracked t' ∧ Sealed cfg t' := by
    rintro t a t' ⟨htracked, hsealed⟩ hpermits hst
    have hmove := move_of_step hst
    exact ⟨htracked.move hmove, hsealed.move htracked (Or.inr ⟨hmode', hpermits⟩) hmove⟩
  obtain ⟨htracked, hsealed⟩ :=
    exec_invariant hstep ⟨tracked_newClient cfg others, hinit⟩ hguard hrun
  constructor
  · intro hkilled bs s' hrun'
    have hbarred : s.barred cfg = true := by
      apply hsealed.once
      intro hidle
      rw [htracked.runs, hidle] at hkilled
      cases hkilled
    have hinv : ∀ t a t', (t.barred cfg = true ∧ t.runners.length = s.runners.length) →
        step cfg t a = some t' → t'.barred cfg = true ∧ t'.runners.length = s.runners.length := by
      rintro t a t' ⟨hb, hlen⟩ hst
      have hnext := (move_of_step hst).barred hb
      exact ⟨hnext.1, hnext.2.1.trans hlen⟩
    exact (exec_invariant_of_step hinv ⟨hbarred, rfl⟩ hrun').2
  · intro hnoop
    rcases hnoop with hnone | hdone
    · rcases hsealed.cleared hnone with hnil | hlate
      · simp [hnil]
      · exact htracked.stopped (hsealed.waited hlate)
    · exact htracked.stopped (hsealed.waited (by simp [Client.late, hdone]))

theorem killed_never_launches_cmd :
    ∃ s, exec (step ⟨.cmd, false, 0⟩) (newClient ⟨.cmd, false, 0⟩ [])
        (.start (.noStart [48]) :: killToEnd 0) = some s ∧
      s.killBodyRuns = 1 ∧ s.killOnce = .done ∧
      (∀ bs s', exec (step ⟨.cmd, false, 0⟩) s bs = some s' →
        s'.runners.length = s.runners.length) ∧
      ∀ r ∈ s.runners, r.running = false := by
  obtain ⟨s, hrun⟩ : ∃ s, exec (step ⟨.cmd, false, 0⟩) (newClient ⟨.cmd, false, 0⟩ [])
      (.start (.noStart [48]) :: killToEnd 0) = some s := ⟨_, rfl⟩
  have hlaunch := killed_never_launches (Or.inl rfl) (by decide) hrun
  cases hrun
  exact ⟨_, rfl, rfl, rfl, hlaunch.1 (by decide), hlaunch.2 (Or.inr rfl)⟩

/-- With `RunnerFunc`, a `Start` call fails, the client is killed, and a `Start` call succeeds.
    The plugin runs on after another `Kill` call has returned. -/
theorem killed_client_launches_again :
    ∃ s s' s'', exec (step ⟨.runnerFunc, false, 0⟩) (newClient ⟨.runnerFunc, false, 0⟩ [])
        (.start (.noStart [49]) :: killToEnd 0) = some s ∧
      s.calls = [.returned] ∧ s.killBodyRuns = 1 ∧
      exec (step ⟨.runnerFunc, false, 0⟩) s [.start (.ok [50])] = some s' ∧
      s'.runners.length = s.runners.length + 1 ∧
      exec (step ⟨.runnerFunc, false, 0⟩) s' [.kill, .call 1, .call 1] = some s'' ∧
      s''.calls = [.returned, .returned] ∧ s''.commands = s'.commands ∧
      s''.runners[1]? = some (.launched [50]) :=
  ⟨_, _, _, rfl, rfl, rfl, rfl, rfl, rfl, rfl, rfl, rfl⟩

end Client

end GoPlugin
