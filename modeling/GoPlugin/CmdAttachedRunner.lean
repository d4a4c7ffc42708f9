import GoPlugin.LabelledSystem
import GoPlugin.Processes

/-!
# A process that the host has not started (`CmdAttachedRunner`)

`ReattachFunc` attaches to a process by its pid.  The process need not be a child of the host, so
`Wait` cannot wait for it: `pidWait` asks once a second whether there is a process with this pid
that takes the signal 0.  `os.FindProcess` gives `Kill` a handle of the process where the system has
such handles (`pidfd`), and else the number again.

The dial that `ReattachFunc` makes shows that somebody listens, and is left to the environment.
-/

namespace GoPlugin

open Posix Tally LabelledSystem

/-- A `pidWait` call polls, or it has returned. -/
inductive PidWaitPc where
  | polling
  | returned
deriving DecidableEq, Repr

/-- The processes and the runner: its `pid`, and the process that `os.FindProcess` found. -/
structure AttachedHost where
  procs : Table
  attached : Bool
  pid : Nat
  process : Option Nat
  waits : List PidWaitPc
deriving DecidableEq, Repr

namespace AttachedHost

/-- What there is before the host attaches. -/
def init (procs : Table) : AttachedHost where
  procs := procs
  attached := false
  pid := 0
  process := none
  waits := []

inductive Act where
  | reattach (pid : Nat)    -- `ReattachFunc`, and its dial succeeds
  | wait                    -- a goroutine calls `Wait`
  | tick (j : Nat)          -- the ticker of the `j`-th call
  | kill
  | event (e : Event)
deriving DecidableEq, Repr

def pidAlive (t : Table) (pid : Nat) : Bool :=
  match (lookup t pid).bind (t[·]?) with
  | some p => p.mine
  | none => false

/-- `c.process.Kill`, with a handle or by number. -/
def killProcess (pidfd : Bool) (s : AttachedHost) : Except Errno Table :=
  match if pidfd then s.process else lookup s.procs s.pid with
  | some i => Posix.kill s.procs i
  | none => .error .esrch

def step (pidfd : Bool) (s : AttachedHost) : Act → Option AttachedHost
  | .reattach pid =>
      if s.attached then none
      else some { s with attached := true, pid := pid, process := lookup s.procs pid }
  | .wait => if s.attached then some { s with waits := s.waits ++ [.polling] } else none
  | .tick j =>
      if s.waits[j]? = some .polling then
        if pidAlive s.procs s.pid then some s
        else some { s with waits := s.waits.set j .returned }
      else none
  | .kill =>
      if s.attached then
        match killProcess pidfd s with
        | .ok t => some { s with procs := t }
        | .error _ => some s
      else none
  | .event e => (Posix.event s.procs e).map fun t => { s with procs := t }

inductive Next (pidfd : Bool) (s : AttachedHost) : Act → AttachedHost → Prop where
  | reattach {pid} (h : s.attached = false) :
      Next pidfd s (.reattach pid)
        { s with attached := true, pid := pid, process := lookup s.procs pid }
  | wait (h : s.attached = true) : Next pidfd s .wait { s with waits := s.waits ++ [.polling] }
  | polls {j} : Next pidfd s (.tick j) s
  | returns {j} (hj : s.waits[j]? = some .polling) (h : pidAlive s.procs s.pid = false) :
      Next pidfd s (.tick j) { s with waits := s.waits.set j .returned }
  | hits {t} (h : s.attached = true) (ht : killProcess pidfd s = .ok t) :
      Next pidfd s .kill { s with procs := t }
  | misses : Next pidfd s .kill s
  | event {e t} (ht : Posix.event s.procs e = some t) :
      Next pidfd s (.event e) { s with procs := t }

theorem next_of_step {pidfd : Bool} {s s' : AttachedHost} {a : Act}
    (h : step pidfd s a = some s') : Next pidfd s a s' := by
  cases a with
  | reattach pid =>
      simp only [step] at h
      split at h
      · cases h
      · next hattached =>
          cases h
          exact .reattach (by simpa using hattached)
  | wait =>
      simp only [step] at h
      split at h
      · next hattached =>
          cases h
          exact .wait hattached
      · cases h
  | tick j =>
      simp only [step] at h
      split at h
      · next hj =>
          split at h
          · cases h
            exact .polls
          · next halive =>
              cases h
              exact .returns hj (by simpa using halive)
      · cases h
  | kill =>
      simp only [step] at h
      split at h
      · next hattached =>
          split at h
          · next t ht =>
              cases h
              exact .hits hattached ht
          · cases h
            exact .misses
      · cases h
  | event e =>
      obtain ⟨t, ht, rfl⟩ := Option.map_eq_some_iff.mp h
      exact .event ht

theorem killProcess_eq_ok {pidfd : Bool} {s : AttachedHost} {t : Table}
    (h : killProcess pidfd s = .ok t) :
    ∃ i, (if pidfd then s.process else lookup s.procs s.pid) = some i ∧
      Posix.kill s.procs i = .ok t := by
  unfold killProcess at h
  split at h
  · next i hi => exact ⟨i, hi, h⟩
  · cases h

/-! ### What holds all the time -/

structure Held (s : AttachedHost) : Prop where
  sound : Sound s.procs
  attached : s.attached = false → s.process = none ∧ s.waits = []
  process : ∀ k, s.process = some k → ∃ p, s.procs[k]? = some p ∧ p.pid = s.pid
  exited : .returned ∈ s.waits → ∀ k p, s.process = some k → s.procs[k]? = some p →
    p.mine = true → p.keptUser = true → p.present = false

theorem held_init {procs : Table} (h : Sound procs) : Held (init procs) :=
  ⟨h, fun _ => ⟨rfl, rfl⟩, (by intro k hk; cases hk), (by intro hw; cases hw)⟩

/-- The processes go on. -/
theorem Held.goesOn {s : AttachedHost} {t : Table} (h : Held s) (hchanges : Changes s.procs t) :
    Held { s with procs := t } := by
  refine ⟨h.sound.changes hchanges, h.attached, fun k hk => ?_, fun hw k p' hk hp' hm hu => ?_⟩
  · obtain ⟨p, hp, hpid⟩ := h.process k hk
    obtain ⟨p', hp', -, hpid'⟩ := hchanges.after hp
    exact ⟨p', hp', by rw [hpid', hpid]⟩
  · by_contra hpresent
    obtain ⟨p, hp, -⟩ := h.process k hk
    obtain ⟨q, hq, hqm, hqu, hqpresent⟩ := user_of_changes hchanges
      (List.getElem?_eq_some_iff.mp hp).1 hp' hm hu (by simpa using hpresent)
    rw [h.exited hw k q hk hq hqm hqu] at hqpresent
    cases hqpresent

theorem Held.next {pidfd : Bool} {s s' : AttachedHost} {a : Act} (h : Held s)
    (hnext : Next pidfd s a s') : Held s' := by
  cases hnext with
  | reattach hfree =>
      refine ⟨h.sound, (by intro hf; cases hf), fun k hk => ?_, fun hw => ?_⟩
      · obtain ⟨p, hp, -, hpid⟩ := lookup_eq_some hk
        exact ⟨p, hp, hpid⟩
      · rw [(h.attached hfree).2] at hw
        cases hw
  | wait hattached =>
      refine ⟨h.sound, fun hfree => ?_, h.process, fun hw => h.exited ?_⟩
      · rw [hattached] at hfree
        cases hfree
      · rcases List.mem_append.mp hw with hold | hnew
        · exact hold
        · cases List.mem_singleton.mp hnew
  | polls => exact h
  | returns hj hdead =>
      refine ⟨h.sound, fun hfree => ?_, h.process, fun _ k p hk hp hm _ => ?_⟩
      · rw [(h.attached hfree).2] at hj
        cases hj
      · by_contra hpresent
        obtain ⟨q, hq, hpid⟩ := h.process k hk
        rw [hp] at hq
        cases hq
        rw [pidAlive, ← hpid, lookup_of_present h.sound hp (by simpa using hpresent)] at hdead
        simp [hp, hm] at hdead
  | hits _ ht =>
      obtain ⟨i, -, hkill⟩ := killProcess_eq_ok ht
      exact h.goesOn (.ages (ages_kill hkill))
  | misses => exact h
  | event ht => exact h.goesOn (changes_event ht)

theorem held_of_exec {pidfd : Bool} {procs : Table} (hsound : Sound procs) {run : List Act}
    {s : AttachedHost} (hrun : exec (step pidfd) (init procs) run = some s) : Held s :=
  exec_invariant_of_step (fun _ _ _ h hstep => h.next (next_of_step hstep)) (held_init hsound) hrun

/-- **What a reattached runner does to others.**  In every run with any number of `Wait` and `Kill`
    calls, while processes come and go and pids are used again: once a `Wait` call has returned, the
    process that the host attached to is gone, provided that it has run for one user, whose
    processes the host may signal.  And a process that a `Kill` call hits is the one that the host
    attached to, unless there are no handles and that one is gone, or has never been. -/
theorem attached_runner_sound {pidfd : Bool} {procs : Table} (hsound : Sound procs)
    {run : List Act} {s : AttachedHost} (hrun : exec (step pidfd) (init procs) run = some s) :
    (.returned ∈ s.waits → ∀ k p, s.process = some k → s.procs[k]? = some p →
      p.mine = true → p.keptUser = true → p.life = .gone) ∧
    ∀ s' i p p', step pidfd s .kill = some s' → s.procs[i]? = some p → s'.procs[i]? = some p' →
      p.life = .running → p'.life ≠ .running →
      s.process = some i ∨ (pidfd = false ∧ p.pid = s.pid ∧
        ∀ k q, s.process = some k → s.procs[k]? = some q → q.life = .gone) := by
  have h := held_of_exec hsound hrun
  constructor
  · intro hw k p hk hp hm hu
    have hgone := h.exited hw k p hk hp hm hu
    simpa [Process.present] using hgone
  · intro s' i p p' hstep hp hp' hrunning hdead
    cases next_of_step hstep with
    | misses =>
        rw [hp] at hp'
        cases hp'
        exact absurd hrunning hdead
    | hits _ ht =>
        obtain ⟨j, hj, hkill⟩ := killProcess_eq_ok ht
        have heq : i = j := eq_of_kill hkill hp hp' hrunning hdead
        subst heq
        cases pidfd with
        | true => exact Or.inl hj
        | false =>
            obtain ⟨q, hq, hqpresent, hpid⟩ := lookup_eq_some hj
            rw [hp] at hq
            cases hq
            by_cases hsame : s.process = some i
            · exact Or.inl hsame
            · refine Or.inr ⟨rfl, hpid, fun k q hk hq => ?_⟩
              by_contra hlife
              obtain ⟨q', hq', hpid'⟩ := h.process k hk
              rw [hq] at hq'
              cases hq'
              have hki := h.sound.distinct k i q p hq hp (by simpa [Process.present] using hlife)
                hqpresent (by rw [hpid', hpid])
              rw [hki] at hk
              exact hsame hk

/-- The plugin exits, and another process gets its pid before the host calls `Kill`. -/
def otherHasPid : List Act :=
  [.event (.fork 0 7), .reattach 7, .wait, .event (.exit 1), .event (.reap 1), .tick 0,
    .event (.fork 0 7)]

theorem attached_runner_sound_otherHasPid :
    ∃ s s' p p', exec (step false) (init [⟨1, none, 1, 0, .running, true, true, true⟩])
        otherHasPid = some s ∧
      step false s .kill = some s' ∧ s.waits = [.returned] ∧
      s.procs[2]? = some p ∧ s'.procs[2]? = some p' ∧ p.life = .running ∧ p'.life = .zombie ∧
      (∀ p, s.procs[1]? = some p → p.mine = true → p.keptUser = true → p.life = .gone) ∧
      (s.process = some 2 ∨ p.pid = s.pid) := by
  obtain ⟨hwait, hkill⟩ := @attached_runner_sound false
    [⟨1, none, 1, 0, .running, true, true, true⟩] (sound_singleton rfl rfl rfl) otherHasPid _ rfl
  exact ⟨_, _, _, _, rfl, rfl, rfl, rfl, rfl, rfl, rfl,
    fun p hp => hwait (by decide) 1 p rfl hp,
    (hkill _ 2 _ _ rfl rfl rfl rfl (by decide)).imp id fun hother => hother.2.1⟩

end AttachedHost

end GoPlugin
