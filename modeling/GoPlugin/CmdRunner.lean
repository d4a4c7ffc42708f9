import GoPlugin.LabelledSystem
import GoPlugin.Processes

/-!
# The plugin's process (`CmdRunner`)

`CmdRunner.Start` starts the plugin in a process group of its own, so that `Kill` can send
`SIGKILL` to all that the plugin has started.  Around it the processes of the machine fork, exit,
are waited for, change their groups and their users, and take pids that have become free.  The
plugin is a child of the host, and only `Wait` waits for it.

`os.Process` knows when its process has been waited for, and does not signal it any more.  The
number that `killProcessGroup` signals is a copy of the pid, which knows nothing.
-/

namespace GoPlugin

open Posix Tally LabelledSystem

/-- What `CmdRunner` uses of `syscall.SysProcAttr`. -/
structure SysProcAttr where
  setsid : Bool
  setpgid : Bool
  pgid : Nat
deriving DecidableEq, Repr

structure CmdConfig where
  sysProcAttr : Option SysProcAttr
  disableProcessGroup : Bool
deriving DecidableEq, Repr

def configureProcessGroup (attr : Option SysProcAttr) : SysProcAttr :=
  let attr := attr.getD ⟨false, false, 0⟩
  if attr.setsid then attr else { attr with setpgid := true }

/-- The attributes that `cmd.Start` finds. -/
def CmdConfig.attr (cfg : CmdConfig) : SysProcAttr :=
  if cfg.disableProcessGroup then cfg.sysProcAttr.getD ⟨false, false, 0⟩
  else configureProcessGroup cfg.sysProcAttr

/-- The group that the child of `cmd.Start` asks for; the leader of a session cannot ask. -/
def SysProcAttr.childGroup (attr : SysProcAttr) : Except Errno (Option Nat) :=
  if attr.setsid then if attr.setpgid then .error .eperm else .ok (some 0)
  else if attr.setpgid then .ok (some attr.pgid)
  else .ok none

/-- The plugin gets a group of its own. -/
def CmdConfig.ownGroup (cfg : CmdConfig) : Bool :=
  !cfg.disableProcessGroup && (cfg.attr.setsid || cfg.attr.pgid == 0)

theorem CmdConfig.childGroup_of_ownGroup {cfg : CmdConfig} (h : cfg.ownGroup = true)
    {g : Option Nat} (hg : cfg.attr.childGroup = .ok g) : g = some 0 := by
  simp only [ownGroup, Bool.and_eq_true, Bool.not_eq_true', Bool.or_eq_true, beq_iff_eq] at h
  obtain ⟨henabled, hown⟩ := h
  simp only [SysProcAttr.childGroup] at hg
  by_cases hsid : cfg.attr.setsid = true
  · rw [if_pos hsid] at hg
    split at hg
    · cases hg
    · cases hg
      rfl
  · rw [if_neg hsid] at hg
    have hset : cfg.attr.setpgid = true := by
      simp only [attr, henabled, Bool.false_eq_true, if_false, configureProcessGroup] at hsid ⊢
      rw [if_neg]
      intro hc
      exact hsid (by rw [if_pos hc]; exact hc)
    rw [if_pos hset, hown.resolve_left hsid] at hg
    cases hg
    rfl

/-- Where `CmdRunner.Start` stands. -/
inductive CmdStartPc where
  | idle
  | launched      -- `c.cmd.Process` is set, and `c.pid` is not
  | returned
  | failed
deriving DecidableEq, Repr

inductive CmdKillResult where
  | noProcess
  | ok
  | failed (e : Errno)
deriving DecidableEq, Repr

/-- Where a `CmdRunner.Kill` call stands. -/
inductive CmdKillPc where
  | entering
  | single                       -- before `c.cmd.Process.Kill`
  | returned (r : CmdKillResult)
deriving DecidableEq, Repr

/-- The processes, the runner, and those that can write into the plugin's stdout and stderr.
    `process` is `c.cmd.Process`, and `done` says that it has been waited for. -/
structure CmdHost where
  procs : Table
  host : Nat
  start : CmdStartPc
  process : Option Nat
  pid : Nat
  done : Bool
  writers : List Nat
  kills : List CmdKillPc
deriving DecidableEq, Repr

namespace CmdHost

/-- What there is before the runner starts. -/
structure World where
  procs : Table
  host : Nat
  sound : Sound procs
  mine : ∃ p, procs[host]? = some p ∧ p.mine = true

def init (w : World) : CmdHost where
  procs := w.procs
  host := w.host
  start := .idle
  process := none
  pid := 0
  done := false
  writers := []
  kills := []

inductive Act where
  | start (pid : Nat) (ok : Bool)    -- `c.cmd.Start`, with the pid that the plugin gets
  | started                          -- `c.pid` is set
  | kill                             -- a goroutine calls `Kill`
  | killing (j : Nat)                -- the `j`-th call goes on
  | wait                             -- `c.cmd.Wait` returns
  | hangUp (i : Nat)                 -- a process closes the plugin's stdout and stderr
  | event (e : Event)
deriving DecidableEq, Repr

/-- The number that `killProcessGroup` signals; zero stands for the caller's own group. -/
def target (s : CmdHost) : Nat :=
  if s.pid = 0 then ((s.procs[s.host]?).map (·.pgid)).getD 0 else s.pid

def setKill (s : CmdHost) (j : Nat) (pc : CmdKillPc) : CmdHost :=
  { s with kills := s.kills.set j pc }

def killStep (cfg : CmdConfig) (s : CmdHost) (j : Nat) : Option CmdHost :=
  match s.kills[j]?, s.process with
  | some .entering, none => some (s.setKill j (.returned .noProcess))
  | some .entering, some _ =>
      if cfg.disableProcessGroup then some (s.setKill j .single)
      else
        match killGroup s.procs s.target with
        | .ok t => some { s.setKill j (.returned .ok) with procs := t }
        | .error _ => some (s.setKill j .single)
  | some .single, some k =>
      -- `ErrProcessDone` is swallowed
      if s.done then some (s.setKill j (.returned .ok))
      else
        match Posix.kill s.procs k with
        | .ok t => some { s.setKill j (.returned .ok) with procs := t }
        | .error .esrch => some (s.setKill j (.returned .ok))
        | .error .eperm => some (s.setKill j (.returned (.failed .eperm)))
  | some .single, none | some (.returned _), _ | none, _ => none

/-- The host goes on, for one user and in one group, and nobody else waits for its child. -/
def allows (s : CmdHost) : Event → Bool
  | .fork _ _ => true
  | .reap i => s.process != some i
  | .setpgid i _ | .setuid i _ | .exit i => i != s.host

/-- Who can write into the plugin's stdout and stderr after an event. -/
def inherit (s : CmdHost) : Event → List Nat
  | .fork i _ => if i ∈ s.writers then s.writers ++ [s.procs.length] else s.writers
  | _ => s.writers

def step (cfg : CmdConfig) (s : CmdHost) : Act → Option CmdHost
  | .start pid ok =>
      if s.start = .idle then
        match cfg.attr.childGroup with
        | .error _ => some { s with start := .failed }
        | .ok g =>
            if ok then
              (spawn s.procs s.host pid g).map fun t =>
                { s with
                  procs := t
                  start := .launched
                  process := some s.procs.length
                  writers := [s.procs.length] }
            else some { s with start := .failed }
      else none
  | .started =>
      match s.start, s.process.bind (s.procs[·]?) with
      | .launched, some p => some { s with start := .returned, pid := p.pid }
      | _, _ => none
  | .kill => some { s with kills := s.kills ++ [.entering] }
  | .killing j => killStep cfg s j
  | .wait =>
      match s.process with
      | some k =>
          if s.done then none
          else (reap s.procs k).map fun t => { s with procs := t, done := true }
      | none => none
  | .hangUp i => some { s with writers := s.writers.filter (· != i) }
  | .event e =>
      if s.allows e then
        (Posix.event s.procs e).map fun t => { s with procs := t, writers := s.inherit e }
      else none

/-- `Kill` calls come after `Start`, as the lock of the client sees to. -/
def afterStart (s : CmdHost) : Act → Bool
  | .kill => s.start == .returned
  | _ => true

/-! ### What one step can do -/

inductive Next (cfg : CmdConfig) (s : CmdHost) : Act → CmdHost → Prop where
  | fails {pid ok} (h : s.start = .idle) : Next cfg s (.start pid ok) { s with start := .failed }
  | launch {pid g t} (h : s.start = .idle) (hg : cfg.attr.childGroup = .ok g)
      (ht : spawn s.procs s.host pid g = some t) :
      Next cfg s (.start pid true)
        { s with
          procs := t
          start := .launched
          process := some s.procs.length
          writers := [s.procs.length] }
  | started {k p} (h : s.start = .launched) (hk : s.process = some k)
      (hp : s.procs[k]? = some p) :
      Next cfg s .started { s with start := .returned, pid := p.pid }
  | kill : Next cfg s .kill { s with kills := s.kills ++ [.entering] }
  | noProcess {j} (hj : s.kills[j]? = some .entering) (hk : s.process = none) :
      Next cfg s (.killing j) (s.setKill j (.returned .noProcess))
  | group {j k t} (hj : s.kills[j]? = some .entering) (hk : s.process = some k)
      (ht : killGroup s.procs s.target = .ok t) :
      Next cfg s (.killing j) { s.setKill j (.returned .ok) with procs := t }
  | single {j k} (hj : s.kills[j]? = some .entering) (hk : s.process = some k)
      (h : cfg.disableProcessGroup = true ∨ ∃ e, killGroup s.procs s.target = .error e) :
      Next cfg s (.killing j) (s.setKill j .single)
  | hit {j k t} (hj : s.kills[j]? = some .single) (hk : s.process = some k)
      (ht : Posix.kill s.procs k = .ok t) :
      Next cfg s (.killing j) { s.setKill j (.returned .ok) with procs := t }
  | miss {j k r} (hj : s.kills[j]? = some .single) (hk : s.process = some k) :
      Next cfg s (.killing j) (s.setKill j (.returned r))
  | wait {k t} (hk : s.process = some k) (hd : s.done = false) (ht : reap s.procs k = some t) :
      Next cfg s .wait { s with procs := t, done := true }
  | hangUp {i} : Next cfg s (.hangUp i) { s with writers := s.writers.filter (· != i) }
  | event {e t} (ha : s.allows e = true) (ht : Posix.event s.procs e = some t) :
      Next cfg s (.event e) { s with procs := t, writers := s.inherit e }

theorem next_of_killStep {cfg : CmdConfig} {s s' : CmdHost} {j : Nat}
    (h : killStep cfg s j = some s') : Next cfg s (.killing j) s' := by
  unfold killStep at h
  split at h
  · next hj hk =>
      cases h
      exact .noProcess hj hk
  · next k hj hk =>
      split at h
      · next hd =>
          cases h
          exact .single hj hk (Or.inl hd)
      · split at h
        · next t ht =>
            cases h
            exact .group hj hk ht
        · next e he =>
            cases h
            exact .single hj hk (Or.inr ⟨e, he⟩)
  · next k hj hk =>
      split at h
      · cases h
        exact .miss hj hk
      · split at h
        · next t ht =>
            cases h
            exact .hit hj hk ht
        · cases h
          exact .miss hj hk
        · cases h
          exact .miss hj hk
  · cases h
  · cases h
  · cases h

theorem next_of_step {cfg : CmdConfig} {s s' : CmdHost} {a : Act}
    (h : step cfg s a = some s') : Next cfg s a s' := by
  cases a with
  | start pid ok =>
      simp only [step] at h
      split at h
      · next hidle =>
          split at h
          · cases h
            exact .fails hidle
          · next g hg =>
              split at h
              · next hok =>
                  obtain ⟨t, ht, rfl⟩ := Option.map_eq_some_iff.mp h
                  rw [hok]
                  exact .launch hidle hg ht
              · cases h
                exact .fails hidle
      · cases h
  | started =>
      simp only [step] at h
      split at h
      · next p hstart hp =>
          cases h
          obtain ⟨k, hk, hp⟩ := Option.bind_eq_some_iff.mp hp
          exact .started hstart hk hp
      · cases h
  | kill =>
      cases h
      exact .kill
  | killing j => exact next_of_killStep h
  | wait =>
      simp only [step] at h
      split at h
      · next k hk =>
          split at h
          · cases h
          · next hd =>
              obtain ⟨t, ht, rfl⟩ := Option.map_eq_some_iff.mp h
              exact .wait hk (by simpa using hd) ht
      · cases h
  | hangUp i =>
      cases h
      exact .hangUp
  | event e =>
      simp only [step] at h
      split at h
      · next ha =>
          obtain ⟨t, ht, rfl⟩ := Option.map_eq_some_iff.mp h
          exact .event ha ht
      · cases h

/-! ### What holds all the time -/

structure Held (cfg : CmdConfig) (s : CmdHost) : Prop where
  sound : Sound s.procs
  host : s.start = .idle → ∃ p, s.procs[s.host]? = some p ∧ p.mine = true
  idle : s.start = .idle → s.process = none
  kills : s.kills ≠ [] → s.start = .returned
  plugin : ∀ k, s.process = some k → ∃ p, s.procs[k]? = some p ∧ p.pid ≠ 0 ∧
    (s.done = false → p.present = true) ∧ (s.start = .returned → s.pid = p.pid)
  writers : ∀ k, s.process = some k → ∀ i ∈ s.writers, Descends s.procs k i
  lined : cfg.ownGroup = true → ∀ k p, s.process = some k → s.procs[k]? = some p →
    Lined s.procs k p.pid
  killed : cfg.ownGroup = true → ∀ k, s.process = some k → ∀ pc ∈ s.kills, pc ≠ .entering →
    Extinct s.procs k

theorem held_init (cfg : CmdConfig) (w : World) : Held cfg (init w) :=
  ⟨w.sound, fun _ => w.mine, fun _ => rfl, fun h => absurd rfl h, (by intro k hk; cases hk),
    (by intro k hk; cases hk), (by intro _ k p hk; cases hk), (by intro _ k hk; cases hk)⟩

/-- The processes go on, and so may the `Kill` calls. -/
theorem Held.goesOn {cfg : CmdConfig} {s s' : CmdHost} (h : Held cfg s)
    (hchanges : Changes s.procs s'.procs) (hstart : s'.start = s.start)
    (hprocess : s'.process = s.process) (hpid : s'.pid = s.pid)
    (hhost : s.start = .idle → ∃ p, s'.procs[s'.host]? = some p ∧ p.mine = true)
    (hkills : s'.kills ≠ [] → s.kills ≠ [])
    (hdone : ∀ k, s.process = some k → s'.done = false →
      s.done = false ∧ Stays s.procs s'.procs k)
    (hwriters : ∀ k, s.process = some k → ∀ i ∈ s'.writers, Descends s'.procs k i)
    (hkilled : cfg.ownGroup = true → ∀ k, s.process = some k → ∀ pc ∈ s'.kills, pc ≠ .entering →
      pc ∈ s.kills ∨ Extinct s'.procs k) : Held cfg s' := by
  refine ⟨h.sound.changes hchanges, fun hidle => hhost (by rw [← hstart, hidle]), ?_,
    fun hne => ?_, fun k hk => ?_, ?_, fun hown k p' hk hp' => ?_,
    fun hown k hk pc hpc hne => ?_⟩
  · rw [hstart, hprocess]
    exact h.idle
  · rw [hstart]
    exact h.kills (hkills hne)
  · rw [hprocess] at hk
    obtain ⟨p, hp, hzero, hpresent, hsame⟩ := h.plugin k hk
    obtain ⟨p', hp', -, hpid'⟩ := hchanges.after hp
    refine ⟨p', hp', by rw [hpid']; exact hzero, fun hd => ?_, fun hret => ?_⟩
    · obtain ⟨hd', hstays⟩ := hdone k hk hd
      exact hstays p p' hp hp' (hpresent hd')
    · rw [hpid, hpid']
      exact hsame (by rw [← hstart, hret])
  · rw [hprocess]
    exact hwriters
  · rw [hprocess] at hk
    obtain ⟨p, hp, -⟩ := h.plugin k hk
    obtain ⟨q, hq, -, hpid'⟩ := hchanges.after hp
    rw [hp'] at hq
    cases hq
    rw [hpid']
    exact (h.lined hown k p hk hp).changes h.sound (List.getElem?_eq_some_iff.mp hp).1 hchanges
  · rw [hprocess] at hk
    rcases hkilled hown k hk pc hpc hne with hold | hextinct
    · obtain ⟨p, hp, -⟩ := h.plugin k hk
      exact (h.killed hown k hk pc hold hne).changes h.sound
        (List.getElem?_eq_some_iff.mp hp).1 hchanges
    · exact hextinct

/-- A `Kill` call goes on. -/
theorem Held.setKill {cfg : CmdConfig} {s : CmdHost} {j k : Nat} {pc pc' : CmdKillPc} {t : Table}
    (h : Held cfg s) (hj : s.kills[j]? = some pc) (hk : s.process = some k)
    (hages : Ages s.procs t) (hstays : Stays s.procs t k)
    (hkilled : cfg.ownGroup = true → Extinct t k) :
    Held cfg { s.setKill j pc' with procs := t } := by
  have hne : s.kills ≠ [] := by
    intro hnil
    rw [hnil] at hj
    cases hj
  refine h.goesOn (.ages hages) rfl rfl rfl (fun hidle => ?_) (fun _ => hne) (fun k' hk' hd => ?_)
    (fun k' hk' i hi => ?_) (fun hown k' hk' pc₀ _ _ => ?_)
  · have hret := h.kills hne
    rw [hidle] at hret
    cases hret
  · rw [hk] at hk'
    cases hk'
    exact ⟨hd, hstays⟩
  · exact (h.writers k' hk' i hi).changes (.ages hages)
  · rw [hk] at hk'
    cases hk'
    exact Or.inr (hkilled hown)

/-- A `Kill` call signals the number that the plugin got. -/
theorem Held.target {cfg : CmdConfig} {s : CmdHost} {j k : Nat} {pc : CmdKillPc} (h : Held cfg s)
    (hj : s.kills[j]? = some pc) (hk : s.process = some k) :
    ∃ p, s.procs[k]? = some p ∧ s.target = p.pid := by
  have hret : s.start = .returned := by
    refine h.kills fun hnil => ?_
    rw [hnil] at hj
    cases hj
  obtain ⟨p, hp, hzero, -, hpid⟩ := h.plugin k hk
  have hsame := hpid hret
  exact ⟨p, hp, by rw [CmdHost.target, hsame, if_neg hzero]⟩

/-- Whoever gets the plugin's stdout and stderr comes from the plugin. -/
theorem Held.inherits {cfg : CmdConfig} {s : CmdHost} {e : Event} {t : Table} {k i : Nat}
    (h : Held cfg s) (ht : Posix.event s.procs e = some t) (hk : s.process = some k)
    (hi : i ∈ s.inherit e) : Descends t k i := by
  have hold : ∀ {j : Nat}, j ∈ s.writers → Descends t k j := fun hj =>
    (h.writers k hk _ hj).changes (changes_event ht)
  cases e with
  | fork j pid =>
      simp only [inherit] at hi
      split at hi
      · next hj =>
          rcases List.mem_append.mp hi with hmem | hnew
          · exact hold hmem
          · rw [List.mem_singleton.mp hnew]
            cases next_of_event ht with
            | fork => exact .child List.getElem?_concat_length rfl (hold hj)
      · exact hold hi
  | setpgid | setuid | exit | reap => exact hold hi

theorem Held.next {cfg : CmdConfig} {s s' : CmdHost} {a : Act} (h : Held cfg s)
    (ha : s.afterStart a = true) (hnext : Next cfg s a s') : Held cfg s' := by
  cases hnext with
  | fails hidle =>
      refine ⟨h.sound, (by intro hf; cases hf), (by intro hf; cases hf), fun hne => ?_,
        fun k hk => ?_, h.writers, h.lined, h.killed⟩
      · have hret := h.kills hne
        rw [hidle] at hret
        cases hret
      · rw [h.idle hidle] at hk
        cases hk
  | @launch pid g t hidle hg ht =>
      have hnone : s.kills = [] := by
        by_contra hne
        have hret := h.kills hne
        rw [hidle] at hret
        cases hret
      obtain ⟨p, pgid, group, hp, -, hfresh, -, rfl⟩ := eq_of_spawn ht
      have hzero : pid ≠ 0 := by
        simp only [fresh, Bool.and_eq_true, bne_iff_ne] at hfresh
        exact hfresh.1
      refine ⟨h.sound.spawn ht, (by intro hf; cases hf), (by intro hf; cases hf),
        fun hne => absurd hnone hne, fun k hk => ?_, fun k hk i hi => ?_,
        fun hown k c hk hc => ?_, fun _ _ _ pc hpc => ?_⟩
      · cases hk
        exact ⟨_, List.getElem?_concat_length, hzero, fun _ => rfl, (by intro hf; cases hf)⟩
      · cases hk
        rw [List.mem_singleton.mp hi]
        exact .root
      · cases hk
        dsimp only at hc
        rw [List.getElem?_concat_length] at hc
        cases hc
        obtain ⟨q, hq, hmine⟩ := h.host hidle
        rw [CmdConfig.childGroup_of_ownGroup hown hg] at ht
        exact lined_spawn h.sound ht hq hmine
      · rw [hnone] at hpc
        cases hpc
  | @started k p hstart hk hp =>
      refine ⟨h.sound, (by intro hf; cases hf), (by intro hf; cases hf), fun _ => rfl,
        fun k' hk' => ?_, h.writers, h.lined, h.killed⟩
      obtain ⟨q, hq, hzero, hpresent, -⟩ := h.plugin k' hk'
      have hsame : k = k' := by
        rw [hk] at hk'
        exact Option.some.inj hk'
      rw [← hsame, hp] at hq
      cases hq
      exact ⟨p, by rw [← hsame]; exact hp, hzero, hpresent, fun _ => rfl⟩
  | kill =>
      have hret : s.start = .returned := by simpa [afterStart] using ha
      refine ⟨h.sound, h.host, h.idle, fun _ => hret, h.plugin, h.writers, h.lined,
        fun hown k hk pc hpc hne => ?_⟩
      rcases List.mem_append.mp hpc with hold | hnew
      · exact h.killed hown k hk pc hold hne
      · exact absurd (List.mem_singleton.mp hnew) hne
  | noProcess hj hk =>
      refine h.goesOn (.ages (.refl _)) rfl rfl rfl h.host (fun _ hnil => ?_) (fun k hk' => ?_)
        h.writers (fun _ k hk' => ?_)
      · rw [hnil] at hj
        cases hj
      · rw [hk] at hk'
        cases hk'
      · rw [hk] at hk'
        cases hk'
  | group hj hk ht =>
      refine h.setKill hj hk (ages_killGroup ht) (stays_killGroup ht _) fun hown => ?_
      obtain ⟨p, hp, htarget⟩ := h.target hj hk
      rw [htarget] at ht
      exact extinct_of_killGroup (h.lined hown _ p hk hp) ht
  | single hj hk hcase =>
      refine h.setKill hj hk (.refl _) (fun _ _ hp hp' hpresent => ?_) fun hown => ?_
      · rw [hp] at hp'
        cases hp'
        exact hpresent
      · obtain ⟨p, hp, htarget⟩ := h.target hj hk
        rcases hcase with hdisabled | ⟨e, he⟩
        · simp [CmdConfig.ownGroup, hdisabled] at hown
        · rw [htarget] at he
          exact extinct_of_killGroup_error (h.lined hown _ p hk hp) he
  | hit hj hk ht =>
      refine h.setKill hj hk (ages_kill ht) (stays_kill ht _) fun hown => ?_
      obtain ⟨p, hp, -⟩ := h.plugin _ hk
      exact (h.killed hown _ hk _ (List.mem_of_getElem? hj) (by simp)).changes h.sound
        (List.getElem?_eq_some_iff.mp hp).1 (.ages (ages_kill ht))
  | miss hj hk =>
      refine h.setKill hj hk (.refl _) (fun _ _ hp hp' hpresent => ?_) fun hown => ?_
      · rw [hp] at hp'
        cases hp'
        exact hpresent
      · exact h.killed hown _ hk _ (List.mem_of_getElem? hj) (by simp)
  | wait hk hd ht =>
      refine h.goesOn (.ages (ages_reap ht)) rfl rfl rfl (fun hidle => ?_) id
        (by intro _ _ hf; cases hf) (fun k hk' i hi => ?_) (fun _ _ _ pc hpc _ => Or.inl hpc)
      · rw [h.idle hidle] at hk
        cases hk
      · exact (h.writers k hk' i hi).changes (.ages (ages_reap ht))
  | hangUp =>
      exact ⟨h.sound, h.host, h.idle, h.kills, h.plugin,
        fun k hk i hi => h.writers k hk i (List.mem_filter.mp hi).1, h.lined, h.killed⟩
  | @event e t hallows ht =>
      refine h.goesOn (changes_event ht) rfl rfl rfl (fun hidle => ?_) id (fun k hk hd => ?_)
        (fun k hk i hi => ?_) (fun _ _ _ pc hpc _ => Or.inl hpc)
      · obtain ⟨p, hp, hmine⟩ := h.host hidle
        have hother : ∀ mine, e ≠ .setuid s.host mine := by
          intro mine he
          rw [he] at hallows
          simp [allows] at hallows
        obtain ⟨p', hp', hsame⟩ := mine_of_event ht hother hp
        exact ⟨p', hp', by rw [hsame, hmine]⟩
      · refine ⟨hd, stays_event ht fun he => ?_⟩
        rw [he] at hallows
        simp [allows, hk] at hallows
      · exact h.inherits ht hk hi

theorem held_of_exec {cfg : CmdConfig} {w : World} {run : List Act} {s : CmdHost}
    (hguard : Along (step cfg) (fun s a => s.afterStart a = true) (init w) run)
    (hrun : exec (step cfg) (init w) run = some s) : Held cfg s :=
  exec_invariant (fun _ _ _ h ha hstep => h.next ha (next_of_step hstep)) (held_init cfg w) hguard
    hrun

/-! ### What `Kill` stops -/

/-- **What `Kill` stops.**  The plugin has a process group of its own, and the `Kill` calls come
    after `Start`.  Then from the return of a `Kill` call on, whatever it returned and whatever the
    other processes do: no process of the plugin's line runs, that is the plugin and what comes from
    it by forks, as long as each has kept its group and its user.  If the plugin has kept them,
    `Wait` can return; and if everybody has, nobody is left who can write into the plugin's stdout
    and stderr. -/
theorem kill_stops_line {cfg : CmdConfig} {w : World} {run : List Act} {s : CmdHost}
    (hown : cfg.ownGroup = true)
    (hguard : Along (step cfg) (fun s a => s.afterStart a = true) (init w) run)
    (hrun : exec (step cfg) (init w) run = some s) {k : Nat} (hk : s.process = some k)
    {r : CmdKillResult} (hr : .returned r ∈ s.kills) :
    Extinct s.procs k ∧
    (∀ p, s.procs[k]? = some p → p.keptGroup = true → p.keptUser = true → s.done = false →
      ∃ s', step cfg s .wait = some s') ∧
    ((∀ p ∈ s.procs, p.keptGroup = true ∧ p.keptUser = true) →
      ∀ i ∈ s.writers, ∀ p, s.procs[i]? = some p → p.life ≠ .running) := by
  have h := held_of_exec hguard hrun
  have hextinct := h.killed hown k hk _ hr (by simp)
  obtain ⟨p, hp, -, hpresent, -⟩ := h.plugin k hk
  refine ⟨hextinct, fun q hq hgroup huser hd => ?_, fun hkept i hi q hq => ?_⟩
  · rw [hp] at hq
    cases hq
    have hdead := hextinct k p (.root hp hgroup huser) hp
    have hthere := hpresent hd
    have hzombie : p.life = .zombie := by
      cases hlife : p.life with
      | running => exact absurd hlife hdead
      | zombie => rfl
      | gone => simp [Process.present, hlife] at hthere
    simp [step, hk, hd, reap, hp, hzombie]
  · have hline := (h.writers k hk i hi).line (List.getElem?_eq_some_iff.mp hp).1 hkept
    exact hextinct i q hline hq

/-- A host alone on its machine. -/
def alone : World where
  procs := [⟨5, none, 5, 0, .running, true, true, true⟩]
  host := 0
  sound := sound_singleton rfl rfl rfl
  mine := ⟨_, rfl, rfl⟩

/-- The plugin has forked when the host calls `Kill`. -/
def killsFamily : List Act :=
  [.start 7 true, .started, .event (.fork 1 8), .event (.fork 2 9), .kill, .killing 0]

theorem kill_stops_line_family :
    ∃ s, exec (step ⟨none, false⟩) (init alone) killsFamily = some s ∧ s.writers = [1, 2, 3] ∧
      ∀ i ∈ s.writers, ∀ p, s.procs[i]? = some p → p.life ≠ .running :=
  ⟨_, rfl, rfl, (@kill_stops_line ⟨none, false⟩ alone killsFamily _ (by decide) (by decide) rfl 1
    rfl .ok (by decide)).2.2 (by decide)⟩

/-! ### What `Kill` spares -/

/-- **What `Kill` spares.**  With `Kill` calls after `Start`, and whatever the attributes of the
    plugin: a process that a `Kill` call hits is the plugin, or it is in the group that the plugin
    founded, unless `Wait` has returned and nobody is left of that group.  Then the plugin's pid is
    free, and the call hits a group that has got its number. -/
theorem kill_spares_others {cfg : CmdConfig} {w : World} {run : List Act} {s s' : CmdHost} {j : Nat}
    (hguard : Along (step cfg) (fun s a => s.afterStart a = true) (init w) run)
    (hrun : exec (step cfg) (init w) run = some s) (hstep : step cfg s (.killing j) = some s')
    {k : Nat} (hk : s.process = some k) {i : Nat} {p p' : Process} (hp : s.procs[i]? = some p)
    (hp' : s'.procs[i]? = some p') (hrunning : p.life = .running) (hdead : p'.life ≠ .running) :
    i = k ∨ p.group = k ∨
      (s.done = true ∧ (∀ q ∈ s.procs, q.present = true → q.group ≠ k) ∧
        ∃ founder plugin, s.procs[p.group]? = some founder ∧ s.procs[k]? = some plugin ∧
          founder.pid = plugin.pid) := by
  have h := held_of_exec hguard hrun
  have hsame : s'.procs = s.procs → False := by
    intro heq
    rw [heq, hp] at hp'
    cases hp'
    exact hdead hrunning
  cases next_of_step hstep with
  | noProcess | single | miss => exact absurd rfl hsame
  | hit hj hk' ht =>
      rw [hk] at hk'
      cases hk'
      exact Or.inl (eq_of_kill ht hp hp' hrunning hdead)
  | group hj hk' ht =>
      rw [hk] at hk'
      cases hk'
      obtain ⟨plugin, hplugin, htarget⟩ := h.target hj hk
      have hpgid : p.pgid = plugin.pid := by
        rw [← htarget]
        exact member_of_killGroup ht hp hp' hrunning hdead
      have hmem := List.mem_of_getElem? hp
      have hpresent := Process.present_of_running hrunning
      by_cases hthere : plugin.present = true ∨ ∃ q ∈ s.procs, q.present = true ∧ q.group = k
      · exact Or.inr (Or.inl (h.sound.group_eq hplugin hthere hmem hpresent hpgid))
      · push Not at hthere
        obtain ⟨hgone, hnobody⟩ := hthere
        obtain ⟨founder, hfounder, hpid⟩ := h.sound.founded p hmem hpresent
        refine Or.inr (Or.inr ⟨?_, hnobody, founder, plugin, hfounder, hplugin, ?_⟩)
        · by_contra hd
          obtain ⟨q, hq, -, hq', -⟩ := h.plugin k hk
          rw [hplugin] at hq
          cases hq
          exact hgone (hq' (by simpa using hd))
        · rw [hpid, hpgid]

/-- The plugin exits and is waited for, and another process gets its pid. -/
def pidUsedAgain : List Act :=
  [.start 7 true, .started, .event (.exit 1), .wait, .event (.fork 0 7), .event (.setpgid 2 0),
    .kill]

theorem kill_spares_others_pidUsedAgain :
    ∃ s s' p p', exec (step ⟨none, false⟩) (init alone) pidUsedAgain = some s ∧
      step ⟨none, false⟩ s (.killing 0) = some s' ∧
      s.procs[2]? = some p ∧ s'.procs[2]? = some p' ∧ p.life = .running ∧ p'.life = .zombie ∧
      (2 = 1 ∨ p.group = 1 ∨
        (s.done = true ∧ (∀ q ∈ s.procs, q.present = true → q.group ≠ 1) ∧
          ∃ founder plugin, s.procs[p.group]? = some founder ∧ s.procs[1]? = some plugin ∧
            founder.pid = plugin.pid)) :=
  ⟨_, _, _, _, rfl, rfl, rfl, rfl, rfl, rfl,
    @kill_spares_others ⟨none, false⟩ alone pidUsedAgain _ _ 0 (by decide) rfl rfl 1 rfl 2 _ _ rfl
      rfl rfl (by decide)⟩

/-- A `Kill` call while `Start` has not set the pid would hit the host. -/
example : ∃ s p,
    exec (step ⟨none, false⟩) (init alone) [.start 7 true, .kill, .killing 0] = some s ∧
    s.procs[s.host]? = some p ∧ p.life = .zombie := ⟨_, _, rfl, rfl, rfl⟩

end CmdHost

end GoPlugin
