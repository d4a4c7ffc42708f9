import GoPlugin.ClientKill

/-!
# What `Kill` cleans up

`NewClient` puts a managed client into `managedClients`, and `Start` may make a temporary directory
for sockets.  Both are taken away by the body of `Kill`, behind a gate that looks at `c.runner`: the
body runs where `Start` has left a runner with an id, and it clears `c.runner` before it takes the
client out of `managedClients`.
-/

namespace GoPlugin

open LabelledSystem

/-- The body has cleared `c.runner`. -/
def OncePc.cleared : OncePc → Bool
  | .running _ .untracking | .done => true
  | _ => false

/-- The body has removed the directory. -/
def OncePc.swept : OncePc → Bool
  | .running _ .clearing | .running _ .untracking | .done => true
  | _ => false

/-- The directory that the body has read. -/
def BodyPc.dir : BodyPc → Option (Option Nat)
  | .dialing _ dir | .closing _ dir | .grace _ dir | .killing _ dir | .marking dir
  | .waiting dir | .removing dir => some dir
  | .counting | .reading | .clearing | .untracking => none

namespace Client

/-! ### Before `Start` -/

/-- The client as `NewClient` made it, but for `Kill` calls that found nothing. -/
structure Unstarted (cfg : LaunchConfig) (others : List Nat) (s : Client) : Prop where
  address : s.address = none
  runner : s.runner = none
  runners : s.runners = []
  killOnce : s.killOnce = .idle
  socketDir : s.socketDir = none
  dirs : s.dirs = []
  managed : s.managedClients = if cfg.managed then others ++ [cfg.self] else others
  gate : ∀ t : Nat, s.calls[t]? ≠ some .once

theorem unstarted_newClient (cfg : LaunchConfig) (others : List Nat) :
    Unstarted cfg others (newClient cfg others) := by
  constructor <;> simp [newClient]

/-- No `Start` call. -/
def Act.isStart : Act → Bool
  | .start _ => true
  | _ => false

theorem Unstarted.step {cfg : LaunchConfig} {others : List Nat} {s s' : Client} {a : Act}
    (h : Unstarted cfg others s) (ha : a.isStart = false) (hstep : step cfg s a = some s') :
    Unstarted cfg others s' := by
  cases a with
  | start o => cases ha
  | connect ok =>
      simp only [Client.step, h.address] at hstep
      cases hstep
  | kill =>
      cases hstep
      refine { h with gate := fun t ht => ?_ }
      rcases Tally.getElem?_concat_cases ht with hold | ⟨-, hnew⟩
      · exact h.gate t hold
      · cases hnew
  | call t =>
      simp only [Client.step, callStep] at hstep
      split at hstep
      · split at hstep
        · cases hstep
          refine { h with gate := fun i hi => ?_ }
          rcases Tally.getElem?_set_cases hi with ⟨-, hnew⟩ | ⟨-, hold⟩
          · cases hnew
          · exact h.gate i hold
        · next n hn =>
            rw [h.runner] at hn
            cases hn
      · next hc => exact absurd hc (h.gate t)
      · cases hstep
  | body ok =>
      simp only [Client.step, h.killOnce] at hstep
      cases hstep
  | goroutine n g =>
      simp only [Client.step, h.runners, List.getElem?_nil] at hstep
      cases hstep
  | exit n =>
      simp only [Client.step, h.runners, List.getElem?_nil] at hstep
      cases hstep

/-! ### What `Start` leaves -/

/-- `Start` leaves a runner with an id in `c.runner`: it got as far as `runner.Start`, or attached
    not in test mode. -/
def StartOutcome.leavesRunner (mode : LaunchMode) : StartOutcome → Bool
  | .noStart id | .noHandshake id | .ok id => !id.isEmpty && mode != .reattach true
  | _ => false

/-- How far the cleaning has come.  Of the `Kill` calls, those from the `m`-th on count. -/
structure Cleaning (cfg : LaunchConfig) (others : List Nat) (m : Nat) (s : Client) : Prop where
  runner : s.killOnce.cleared = false →
    ∃ n r, s.runner = some n ∧ s.runners[n]? = some r ∧ r.id ≠ []
  dir : ∀ t pc dir, s.killOnce = .running t pc → pc.dir = some dir → dir = s.socketDir
  dirs : s.dirs = if s.killOnce.swept then [] else s.socketDir.toList
  managed : s.managedClients = if s.killOnce = .done then others else others ++ [cfg.self]
  answered : ∀ t : Nat, m ≤ t → s.calls[t]? = some .returned → s.killOnce = .done

/-- A goroutine of the plugin, or its exit, leaves alone what `Kill` cleans up. -/
structure Aside (s s' : Client) : Prop where
  address : s'.address = s.address
  runner : s'.runner = s.runner
  killOnce : s'.killOnce = s.killOnce
  socketDir : s'.socketDir = s.socketDir
  dirs : s'.dirs = s.dirs
  managed : s'.managedClients = s.managedClients
  calls : s'.calls = s.calls
  ids : ∀ n : Nat, (s'.runners[n]?).map RunnerState.id = (s.runners[n]?).map RunnerState.id

theorem ids_set {s : Client} {n : Nat} {r r' : RunnerState} (hr : s.runners[n]? = some r)
    (hid : r'.id = r.id) (m : Nat) :
    ((s.runners.set n r')[m]?).map RunnerState.id = (s.runners[m]?).map RunnerState.id := by
  by_cases hm : n = m
  · subst hm
    rw [List.getElem?_set_self (List.getElem?_eq_some_iff.mp hr).1, hr]
    exact congrArg some hid
  · rw [List.getElem?_set_ne hm]

theorem aside_of_goroutine {s s' : Client} {n : Nat} {r : RunnerState} {g : Goroutine}
    (hr : s.runners[n]? = some r) (h : s.goroutineStep n r g = some s') : Aside s s' := by
  have hset : ∀ {r' : RunnerState} {exited : Bool} {wg pipes : Nat} {cancelled : List Nat},
      r'.id = r.id →
      Aside s { s with
        exited := exited, clientWaitGroup := wg, pipesWaitGroup := pipes, cancelled := cancelled,
        runners := s.runners.set n r' } :=
    fun hid => ⟨rfl, rfl, rfl, rfl, rfl, rfl, rfl, ids_set hr hid⟩
  cases g with
  | stderr =>
      simp only [goroutineStep, stderrStep] at h
      split at h <;> cases h <;> exact hset rfl
  | scanner more =>
      simp only [goroutineStep, scannerStep] at h
      split at h <;> cases h <;> exact hset rfl
  | drainer =>
      simp only [goroutineStep, drainerStep] at h
      split at h
      · split at h <;> cases h <;> exact hset rfl
      · cases h
        exact hset rfl
      · cases h
      · cases h
  | waiter =>
      simp only [goroutineStep, waiterStep] at h
      split at h
      · obtain ⟨ctx, -, rfl⟩ := Option.map_eq_some_iff.mp h
        exact hset rfl
      · split at h <;> cases h
        exact hset rfl
      · split at h <;> cases h
        exact hset rfl
      · cases h
        exact hset rfl
      · cases h
        exact hset rfl
      · cases h
        exact hset rfl
      · cases h
      · cases h

theorem Cleaning.aside {cfg : LaunchConfig} {others : List Nat} {m : Nat} {s s' : Client}
    (h : Cleaning cfg others m s) (ha : Aside s s') : Cleaning cfg others m s' where
  runner := by
    rw [ha.killOnce, ha.runner]
    intro hcleared
    obtain ⟨n, r, hn, hr, hid⟩ := h.runner hcleared
    have hids := ha.ids n
    rw [hr, Option.map_some] at hids
    obtain ⟨r', hr', hid'⟩ := Option.map_eq_some_iff.mp hids
    exact ⟨n, r', hn, hr', hid' ▸ hid⟩
  dir := by
    rw [ha.killOnce, ha.socketDir]
    exact h.dir
  dirs := by
    rw [ha.dirs, ha.killOnce, ha.socketDir]
    exact h.dirs
  managed := by
    rw [ha.managed, ha.killOnce]
    exact h.managed
  answered := by
    rw [ha.calls, ha.killOnce]
    exact h.answered

/-- What the theorem below asks of the run after `Start`: `Start` is not called again on a client
    without an address, and no `Kill` call reads `c.runner` while the body is between clearing it
    and the removal from `managedClients`. -/
def undisturbed (s : Client) : Act → Bool
  | .start _ => s.address.isSome
  | .call t => s.calls[t]? != some .entering || s.runner.isSome || s.killOnce == .done
  | _ => true

theorem Cleaning.call {cfg : LaunchConfig} {others : List Nat} {m t : Nat} {s s' : Client}
    (h : Cleaning cfg others m s) (hok : s.undisturbed (.call t) = true)
    (hstep : s.callStep t = some s') : Cleaning cfg others m s' := by
  have hreturn : s.killOnce = .done →
      Cleaning cfg others m { s with calls := s.calls.set t .returned } := by
    intro hdone
    exact { h with answered := fun _ _ _ => hdone }
  unfold callStep at hstep
  split at hstep
  · next hc =>
      split at hstep
      · next hr =>
          cases hstep
          have hdone : s.killOnce = .done := by simpa [undisturbed, hc, hr] using hok
          exact hreturn hdone
      · cases hstep
        refine { h with answered := fun i hi hret => ?_ }
        rcases Tally.getElem?_set_cases hret with ⟨-, hnew⟩ | ⟨-, hold⟩
        · cases hnew
        · exact h.answered i hi hold
  · split at hstep
    · next ho =>
        cases hstep
        have hcleared : s.killOnce.cleared = false := by rw [ho]; rfl
        have hdirs := h.dirs
        have hmanaged := h.managed
        rw [ho] at hdirs hmanaged
        refine ⟨fun _ => h.runner hcleared, ?_, hdirs, hmanaged, fun i hi hret => ?_⟩
        · rintro i pc dir hpc hdir
          cases hpc
          cases hdir
        · rw [h.answered i hi hret] at ho
          cases ho
    · cases hstep
    · next ho =>
        cases hstep
        exact hreturn ho
  · cases hstep

/-- While the body runs, the client is on the list and no `Kill` call has returned. -/
theorem Cleaning.running {cfg : LaunchConfig} {others : List Nat} {m t : Nat} {s : Client}
    {pc : BodyPc} (h : Cleaning cfg others m s) (ho : s.killOnce = .running t pc) :
    s.managedClients = others ++ [cfg.self] ∧
      ∀ i : Nat, m ≤ i → s.calls[i]? ≠ some .returned := by
  constructor
  · have hmanaged := h.managed
    rw [ho] at hmanaged
    exact hmanaged
  · intro i hi hret
    have hdone := h.answered i hi hret
    rw [ho] at hdone
    cases hdone

/-- Up to the directory: the body goes on, with the directory that it has read. -/
theorem Cleaning.advance {cfg : LaunchConfig} {others : List Nat} {m t runs : Nat} {s : Client}
    {pc pc' : BodyPc} {client processKilled : Bool} {commands : List Command}
    (h : Cleaning cfg others m s) (ho : s.killOnce = .running t pc)
    (hearly : (OncePc.running t pc).swept = false) (hearly' : (OncePc.running t pc').swept = false)
    (hdir : ∀ dir, pc'.dir = some dir → pc.dir = some dir ∨ dir = s.socketDir) :
    Cleaning cfg others m
      { s with
        client := client
        processKilled := processKilled
        killOnce := .running t pc'
        killBodyRuns := runs
        commands := commands } where
  runner _ := by
    apply h.runner
    rw [ho]
    revert hearly
    cases pc <;> simp [OncePc.swept, OncePc.cleared]
  dir i q dir hq hdir' := by
    cases hq
    exact (hdir dir hdir').elim (h.dir t pc dir ho) id
  dirs := by
    have hdirs := h.dirs
    rw [ho, hearly] at hdirs
    rw [hearly']
    exact hdirs
  managed := (h.running ho).1
  answered i hi hret := absurd hret ((h.running ho).2 i hi)

theorem Cleaning.remove {cfg : LaunchConfig} {others : List Nat} {m t : Nat} {s : Client}
    {dir : Option Nat} (h : Cleaning cfg others m s)
    (ho : s.killOnce = .running t (.removing dir)) :
    Cleaning cfg others m
      { s with dirs := s.dirs.filter (some · != dir), killOnce := .running t .clearing } := by
  obtain ⟨hlist, hpending⟩ := h.running ho
  have hsocket : s.dirs = s.socketDir.toList := by
    have hdirs := h.dirs
    rw [ho] at hdirs
    exact hdirs
  refine ⟨fun _ => h.runner (by rw [ho]; rfl), ?_, ?_, hlist,
    fun i hi hret => absurd hret (hpending i hi)⟩
  · rintro i pc dir hpc hdir
    cases hpc
    cases hdir
  · show s.dirs.filter (some · != dir) = []
    rw [hsocket, h.dir t _ dir ho rfl]
    cases s.socketDir <;> simp

theorem Cleaning.clear {cfg : LaunchConfig} {others : List Nat} {m t : Nat} {s : Client}
    (h : Cleaning cfg others m s) (ho : s.killOnce = .running t .clearing) :
    Cleaning cfg others m { s with runner := none, killOnce := .running t .untracking } := by
  obtain ⟨hlist, hpending⟩ := h.running ho
  have hdirs := h.dirs
  rw [ho] at hdirs
  refine ⟨fun hcleared => (by cases hcleared), ?_, hdirs, hlist,
    fun i hi hret => absurd hret (hpending i hi)⟩
  rintro i pc dir hpc hdir
  cases hpc
  cases hdir

/-- The last step takes the client off the list. -/
theorem Cleaning.untrack {cfg : LaunchConfig} {others : List Nat} {m t : Nat} {s : Client}
    (h : Cleaning cfg others m s) (hself : cfg.self ∉ others) (hmanaged : cfg.managed = true)
    (ho : s.killOnce = .running t .untracking) :
    Cleaning cfg others m { s.leave t with
      managedClients := if cfg.managed then s.managedClients.erase cfg.self
        else s.managedClients } := by
  have hdirs := h.dirs
  rw [ho] at hdirs
  refine ⟨fun hcleared => (by cases hcleared), ?_, hdirs, ?_, fun _ _ _ => rfl⟩
  · rintro i pc dir hpc hdir
    cases hpc
  · show (if cfg.managed then s.managedClients.erase cfg.self else s.managedClients) = others
    rw [if_pos hmanaged, (h.running ho).1, List.erase_append_right _ hself]
    simp

theorem Cleaning.body {cfg : LaunchConfig} {others : List Nat} {m t : Nat} {s s' : Client}
    {ok : Bool} {pc : BodyPc} (h : Cleaning cfg others m s) (hself : cfg.self ∉ others)
    (hmanaged : cfg.managed = true) (ho : s.killOnce = .running t pc)
    (hstep : bodyStep cfg s t ok pc = some s') : Cleaning cfg others m s' := by
  cases pc with
  | counting =>
      cases hstep
      exact h.advance ho rfl rfl (by simp [BodyPc.dir])
  | reading =>
      obtain ⟨n, r, hn, hr, hid⟩ := h.runner (by rw [ho]; rfl)
      simp only [bodyStep] at hstep
      split at hstep
      · next hnone =>
          rw [hn] at hnone
          cases hnone
      · next n' hn' =>
          cases hn.symm.trans hn'
          split at hstep
          · next r' hr' =>
              cases hr.symm.trans hr'
              rw [if_neg (by simpa using hid)] at hstep
              split at hstep <;> cases hstep
              · exact h.advance ho rfl rfl (by simp [BodyPc.dir])
              · exact h.advance ho rfl rfl (by simp [BodyPc.dir])
          · cases hstep
  | dialing n dir =>
      simp only [bodyStep] at hstep
      split at hstep <;> cases hstep
      · exact h.advance ho rfl rfl (by simp [BodyPc.dir])
      · exact h.advance ho rfl rfl (by simp [BodyPc.dir])
  | closing n dir =>
      cases hstep
      cases ok with
      | false => exact h.advance ho rfl rfl (by simp [BodyPc.dir])
      | true => exact h.advance ho rfl rfl (by simp [BodyPc.dir])
  | grace n dir =>
      simp only [bodyStep] at hstep
      split at hstep
      · split at hstep
        · split at hstep <;> cases hstep
          exact h.advance ho rfl rfl (by simp [BodyPc.dir])
        · cases hstep
      · cases hstep
        exact h.advance ho rfl rfl (by simp [BodyPc.dir])
  | killing n dir =>
      cases hstep
      exact h.advance ho rfl rfl (by simp [BodyPc.dir])
  | marking dir =>
      cases hstep
      exact h.advance ho rfl rfl (by simp [BodyPc.dir])
  | waiting dir =>
      simp only [bodyStep] at hstep
      split at hstep <;> cases hstep
      exact h.advance ho rfl rfl (by simp [BodyPc.dir])
  | removing dir =>
      cases hstep
      exact h.remove ho
  | clearing =>
      cases hstep
      exact h.clear ho
  | untracking =>
      cases hstep
      exact h.untrack hself hmanaged ho

theorem Cleaning.step {cfg : LaunchConfig} {others : List Nat} {m : Nat} {s s' : Client} {a : Act}
    (h : Cleaning cfg others m s) (hself : cfg.self ∉ others) (hmanaged : cfg.managed = true)
    (hok : s.undisturbed a = true) (hstep : Client.step cfg s a = some s') :
    Cleaning cfg others m s' := by
  cases a with
  | start o =>
      have hsome : start cfg s o = some s := if_pos hok
      cases hsome.symm.trans hstep
      exact h
  | connect ok =>
      simp only [Client.step] at hstep
      split at hstep <;> cases hstep
      exact ⟨h.runner, h.dir, h.dirs, h.managed, h.answered⟩
  | kill =>
      cases hstep
      refine { h with answered := fun t ht hret => ?_ }
      rcases Tally.getElem?_concat_cases hret with hold | ⟨-, hnew⟩
      · exact h.answered t ht hold
      · cases hnew
  | call t => exact h.call hok hstep
  | body ok =>
      simp only [Client.step] at hstep
      split at hstep
      · next t pc ho => exact h.body hself hmanaged ho hstep
      · cases hstep
  | goroutine n g =>
      simp only [Client.step] at hstep
      split at hstep
      · next r hr => exact h.aside (aside_of_goroutine hr hstep)
      · cases hstep
  | exit n =>
      simp only [Client.step] at hstep
      split at hstep
      · next r hr =>
          cases hstep
          exact h.aside ⟨rfl, rfl, rfl, rfl, rfl, rfl, rfl, ids_set hr rfl⟩
      · cases hstep

theorem Unstarted.newRunner {cfg : LaunchConfig} {others : List Nat} {s s' : Client}
    {id : ByteString} (h : Unstarted cfg others s) (hnew : newRunner cfg s id = some s') :
    s'.runners = [] ∧ s'.killOnce = .idle ∧ s'.dirs = s'.socketDir.toList ∧
      s'.managedClients = s.managedClients := by
  unfold Client.newRunner at hnew
  split at hnew
  · split at hnew <;> cases hnew
    exact ⟨h.runners, h.killOnce, by rw [h.dirs, h.socketDir]; rfl, rfl⟩
  · cases hnew
    exact ⟨h.runners, h.killOnce, by simp [mkdirTemp, h.dirs], rfl⟩
  · cases hnew

/-- A `Start` call that leaves a runner leaves one directory at most, and `c.unixSocketCfg` names
    it. -/
theorem Unstarted.start {cfg : LaunchConfig} {others : List Nat} {s s' : Client}
    {o : StartOutcome} (h : Unstarted cfg others s) (hmanaged : cfg.managed = true)
    (ho : o.leavesRunner cfg.mode = true) (hstart : start cfg s o = some s') :
    Cleaning cfg others s'.calls.length s' := by
  -- the facts that do not depend on how the runner was made
  have hclean : ∀ (s₁ : Client) (r : RunnerState), s₁.killOnce = .idle →
      s₁.runner = some 0 → s₁.runners = [r] → r.id ≠ [] → s₁.dirs = s₁.socketDir.toList →
      s₁.managedClients = others ++ [cfg.self] → Cleaning cfg others s₁.calls.length s₁ := by
    intro s₁ r hidle hrunner hrunners hid hdirs hlist
    refine ⟨fun _ => ⟨0, r, hrunner, by rw [hrunners]; rfl, hid⟩, ?_, ?_, ?_, ?_⟩
    · intro t pc dir hpc
      rw [hidle] at hpc
      cases hpc
    · rw [hidle]
      exact hdirs
    · rw [hidle]
      exact hlist
    · intro t ht hret
      rw [List.getElem?_eq_none ht] at hret
      cases hret
  have hlist : s.managedClients = others ++ [cfg.self] := by rw [h.managed, if_pos hmanaged]
  have hid : ∀ {id : ByteString}, (!id.isEmpty && cfg.mode != .reattach true) = true →
      id ≠ [] ∧ cfg.mode ≠ .reattach true := by
    intro id hid
    simpa using hid
  unfold Client.start at hstart
  rw [if_neg (by simp [h.address])] at hstart
  split at hstart
  · next test hmode =>
      cases o with
      | ok id =>
          cases hstart
          obtain ⟨hne, htest⟩ := hid ho
          have hfalse : test = false := by simpa [hmode] using htest
          subst hfalse
          refine hclean _ (.reattached id) h.killOnce ?_ ?_ hne ?_ hlist
          · simp [h.runners]
          · simp [h.runners]
          · rw [h.dirs, h.socketDir]
            rfl
      | noStart id | noHandshake id => cases hstart
      | refused | noDir | noGroup | noRunner piped => cases ho
  · cases o with
    | noStart id =>
        obtain ⟨s₁, hnew, rfl⟩ := Option.map_eq_some_iff.mp hstart
        obtain ⟨hrunners, hidle, hdirs, hsame⟩ := h.newRunner hnew
        exact hclean _ (.unstarted id) hidle (by simp [setRunner, hrunners])
          (by simp [setRunner, hrunners]) (hid ho).1 hdirs (hsame.trans hlist)
    | noHandshake id =>
        obtain ⟨s₁, hnew, rfl⟩ := Option.map_eq_some_iff.mp hstart
        obtain ⟨hrunners, hidle, hdirs, hsame⟩ := h.newRunner hnew
        exact hclean _ (.launched id) hidle (by simp [spawn, setRunner, hrunners])
          (by simp [spawn, setRunner, hrunners]) (hid ho).1 hdirs (hsame.trans hlist)
    | ok id =>
        obtain ⟨s₁, hnew, rfl⟩ := Option.map_eq_some_iff.mp hstart
        obtain ⟨hrunners, hidle, hdirs, hsame⟩ := h.newRunner hnew
        exact hclean _ (.launched id) hidle (by simp [spawn, setRunner, hrunners])
          (by simp [spawn, setRunner, hrunners]) (hid ho).1 hdirs (hsame.trans hlist)
    | refused | noDir | noGroup | noRunner piped => cases ho

/-! ### After `Kill` -/

/-- **`Kill` leaves no residue** where `Start` has left a runner with an id.  After one `Start`
    call, with any number of `Kill` calls around it, and in a run that is not disturbed: when a
    `Kill` call that came after `Start` has returned, `managedClients` is what it was before the
    client was made, and no directory is left. -/
theorem kill_leaves_no_residue {cfg : LaunchConfig} {others : List Nat} {as bs : List Act}
    {o : StartOutcome} {s₀ s s' : Client} (hmanaged : cfg.managed = true)
    (hself : cfg.self ∉ others) (has : ∀ a ∈ as, a.isStart = false)
    (hrun : exec (Client.step cfg) (newClient cfg others) as = some s₀)
    (hstart : Client.step cfg s₀ (.start o) = some s) (ho : o.leavesRunner cfg.mode = true)
    (hguard : Along (Client.step cfg) (fun s a => s.undisturbed a = true) s bs)
    (hrun' : exec (Client.step cfg) s bs = some s') (t : Nat) (ht : s.calls.length ≤ t)
    (hret : s'.calls[t]? = some .returned) :
    s'.managedClients = others ∧ s'.dirs = [] := by
  have hbefore : Unstarted cfg others s₀ :=
    exec_invariant (fun _ _ _ hu ha hst => hu.step ha hst) (unstarted_newClient cfg others)
      (along_of_forall_mem has _) hrun
  have hafter : Cleaning cfg others s.calls.length s' :=
    exec_invariant (fun _ _ _ hc hok hst => hc.step hself hmanaged hok hst)
      (hbefore.start hmanaged ho hstart) hguard hrun'
  have hdone := hafter.answered t ht hret
  constructor
  · rw [hafter.managed, if_pos hdone]
  · rw [hafter.dirs, hdone]
    rfl

/-- A managed client with `RunnerFunc`, among others. -/
def managedRunner : LaunchConfig := ⟨.runnerFunc, true, 7⟩

/-- `runner.Start` fails, and the client is killed. -/
theorem kill_leaves_no_residue_noStart :
    ∃ s₀ s s', exec (Client.step managedRunner) (newClient managedRunner [3, 9]) [.kill, .call 0] =
        some s₀ ∧
      Client.step managedRunner s₀ (.start (.noStart [49])) = some s ∧
      s.managedClients = [3, 9, 7] ∧ s.dirs = [0] ∧
      exec (Client.step managedRunner) s (killToEnd 1) = some s' ∧
      s'.managedClients = [3, 9] ∧ s'.dirs = [] :=
  ⟨_, _, _, rfl, rfl, rfl, rfl, rfl, @kill_leaves_no_residue managedRunner [3, 9] [.kill, .call 0]
    (killToEnd 1) (.noStart [49]) _ _ _ rfl (by decide) (by decide) rfl rfl rfl (by decide) rfl 1
    (by decide) rfl⟩

/-- Where the option checks refuse, the client stays in `managedClients`; where `RunnerFunc`
    fails, the directory stays as well. -/
theorem kill_without_runner_leaves_residue :
    (∃ s, exec (Client.step managedRunner) (newClient managedRunner [3, 9])
        [.start .refused, .kill, .call 0] = some s ∧
      s.calls = [.returned] ∧ s.managedClients = [3, 9, 7]) ∧
    ∃ s, exec (Client.step managedRunner) (newClient managedRunner [3, 9])
        [.start (.noRunner false), .kill, .call 0] = some s ∧
      s.calls = [.returned] ∧ s.managedClients = [3, 9, 7] ∧ s.dirs = [0] :=
  ⟨⟨_, rfl, rfl, rfl⟩, _, rfl, rfl, rfl, rfl⟩

end Client

end GoPlugin
