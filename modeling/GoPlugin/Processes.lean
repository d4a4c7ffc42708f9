import GoPlugin.Tally
import Mathlib.Tactic.Common

/-!
# Processes and process groups

The table lists every process that has ever been started, so a position names one process even when
its pid is used again.  A pid is free as long as no process and no process group has it, where a
process stays until it has been waited for and a group until its last process has.

A group is known by its number, like a process, and by the process that founded it, unlike one that
gets the same number later.  What an observer may signal depends on the users that the processes run
for.  A process that is sent `SIGKILL` takes no further step of its own, so it exits at once.
-/

namespace Posix

open Tally

inductive Life where
  | running
  | zombie      -- it has exited, and nobody has waited for it
  | gone
deriving DecidableEq, Repr

structure Process where
  pid : Nat
  /-- The process that started it. -/
  parent : Option Nat
  pgid : Nat
  /-- The process that founded its group. -/
  group : Nat
  life : Life
  /-- The observer may signal it. -/
  mine : Bool
  /-- It has been in one group since it was started. -/
  keptGroup : Bool
  /-- It has run for one user since it was started. -/
  keptUser : Bool
deriving DecidableEq, Repr

def Process.present (p : Process) : Bool := p.life != .gone

abbrev Table := List Process

inductive Errno where
  | esrch
  | eperm
deriving DecidableEq, Repr

/-- The pid is free. -/
def fresh (t : Table) (pid : Nat) : Bool :=
  pid != 0 && t.all fun p => !p.present || (p.pid != pid && p.pgid != pid)

/-- What `setpgid` to `g` gives the `i`-th process: the number of its new group, and the founder. -/
def joins (t : Table) (i pid g : Nat) : Option (Nat × Nat) :=
  let pgid := if g = 0 then pid else g
  match t.find? fun q => q.present && q.pgid == pgid with
  | some q => some (pgid, q.group)
  | none => if pgid = pid then some (pgid, i) else none

/-- The group of a new process of `p`, which calls `setpgid` first if there is a `g`. -/
def newGroup (t : Table) (p : Process) (pid : Nat) : Option Nat → Option (Nat × Nat)
  | none => some (p.pgid, p.group)
  | some g => joins t t.length pid g

/-- The `i`-th process starts one with this pid. -/
def spawn (t : Table) (i pid : Nat) (g : Option Nat) : Option Table :=
  match t[i]? with
  | some p =>
      if p.life = .running ∧ fresh t pid = true then
        (newGroup t p pid g).map fun x =>
          t ++ [Process.mk pid (some i) x.1 x.2 .running p.mine true true]
      else none
  | none => none

def setpgid (t : Table) (i g : Nat) : Option Table :=
  match t[i]? with
  | some p =>
      if p.life = .running then
        (joins t i p.pid g).map fun x =>
          t.set i { p with pgid := x.1, group := x.2, keptGroup := p.keptGroup && x.1 == p.pgid }
      else none
  | none => none

def setuid (t : Table) (i : Nat) (mine : Bool) : Option Table :=
  match t[i]? with
  | some p =>
      if p.life = .running then some (t.set i { p with mine := mine, keptUser := false }) else none
  | none => none

def exit (t : Table) (i : Nat) : Option Table :=
  match t[i]? with
  | some p => if p.life = .running then some (t.set i { p with life := .zombie }) else none
  | none => none

/-- Somebody waits for the `i`-th process. -/
def reap (t : Table) (i : Nat) : Option Table :=
  match t[i]? with
  | some p => if p.life = .zombie then some (t.set i { p with life := .gone }) else none
  | none => none

/-- What processes do by themselves. -/
inductive Event where
  | fork (i pid : Nat)
  | setpgid (i g : Nat)
  | setuid (i : Nat) (mine : Bool)
  | exit (i : Nat)
  | reap (i : Nat)
deriving DecidableEq, Repr

def event (t : Table) : Event → Option Table
  | .fork i pid => spawn t i pid none
  | .setpgid i g => setpgid t i g
  | .setuid i mine => setuid t i mine
  | .exit i => exit t i
  | .reap i => reap t i

/-- The process that has the pid. -/
def lookup (t : Table) (pid : Nat) : Option Nat :=
  t.findIdx? fun p => p.present && p.pid == pid

/-- A process that got `SIGKILL`. -/
def Process.die (p : Process) : Process :=
  if p.life = .running then { p with life := .zombie } else p

def Process.member (p : Process) (g : Nat) : Bool := p.present && p.pgid == g

/-- `SIGKILL` for a group. -/
def killGroup (t : Table) (g : Nat) : Except Errno Table :=
  if t.any fun p => p.member g && p.mine then
    .ok (t.map fun p => if p.member g && p.mine then p.die else p)
  else if t.any (·.member g) then .error .eperm
  else .error .esrch

/-- `SIGKILL` for one process. -/
def kill (t : Table) (i : Nat) : Except Errno Table :=
  match t[i]? with
  | some p =>
      if p.present then if p.mine then .ok (t.set i p.die) else .error .eperm else .error .esrch
  | none => .error .esrch

/-! ### Groups keep their numbers -/

structure Sound (t : Table) : Prop where
  started : ∀ p ∈ t, ∀ j, p.parent = some j → j < t.length
  distinct : ∀ (i j : Nat) p q, t[i]? = some p → t[j]? = some q → p.present = true →
    q.present = true → p.pid = q.pid → i = j
  founded : ∀ p ∈ t, p.present = true → ∃ q, t[p.group]? = some q ∧ q.pid = p.pgid
  united : ∀ p ∈ t, ∀ q ∈ t, p.present = true → q.present = true → p.pgid = q.pgid →
    p.group = q.group
  led : ∀ (i : Nat) p, t[i]? = some p → p.present = true → ∀ q ∈ t, q.present = true →
    q.pgid = p.pid → q.group = i

theorem sound_singleton {p : Process} (hparent : p.parent = none) (hpgid : p.pgid = p.pid)
    (hgroup : p.group = 0) : Sound [p] := by
  have hzero : ∀ {i : Nat} {q : Process}, [p][i]? = some q → i = 0 := by
    intro i q hi
    have hlt := (List.getElem?_eq_some_iff.mp hi).1
    rw [List.length_singleton] at hlt
    omega
  refine ⟨fun q hq j hj => ?_, fun i j _ _ hi hj _ _ _ => ?_, fun q hq _ => ?_,
    fun q hq r hr _ _ _ => ?_, fun i _ hi _ q hq _ _ => ?_⟩
  · rw [List.mem_singleton.mp hq, hparent] at hj
    cases hj
  · rw [hzero hi, hzero hj]
  · rw [List.mem_singleton.mp hq, hgroup]
    exact ⟨p, rfl, hpgid.symm⟩
  · rw [List.mem_singleton.mp hq, List.mem_singleton.mp hr]
  · rw [List.mem_singleton.mp hq, hgroup, hzero hi]

/-- The group of a process that is still there, or whose group is, is the one it founded. -/
theorem Sound.group_eq {t : Table} (h : Sound t) {k : Nat} {p : Process} (hk : t[k]? = some p)
    (hthere : p.present = true ∨ ∃ r ∈ t, r.present = true ∧ r.group = k) {q : Process}
    (hq : q ∈ t) (hpresent : q.present = true) (hpgid : q.pgid = p.pid) : q.group = k := by
  rcases hthere with hp | ⟨r, hr, hrpresent, hgroup⟩
  · exact h.led k p hk hp q hq hpresent hpgid
  · obtain ⟨founder, hfounder, hpid⟩ := h.founded r hr hrpresent
    rw [hgroup, hk] at hfounder
    cases hfounder
    rw [← hgroup]
    exact h.united q hq r hr hpresent hrpresent (by rw [hpgid, hpid])

/-- A process has gone on without a change of its group. -/
structure Process.Ages (p p' : Process) : Prop where
  pid : p'.pid = p.pid
  parent : p'.parent = p.parent
  pgid : p'.pgid = p.pgid
  group : p'.group = p.group
  keptGroup : p'.keptGroup = p.keptGroup
  user : p'.keptUser = true → p.keptUser = true ∧ p'.mine = p.mine
  running : p'.life = .running → p.life = .running
  present : p'.present = true → p.present = true

theorem Process.Ages.refl (p : Process) : p.Ages p :=
  ⟨rfl, rfl, rfl, rfl, rfl, fun h => ⟨h, rfl⟩, id, id⟩

theorem Process.ages_die (p : Process) : p.Ages p.die := by
  unfold die
  split
  · next h =>
      exact ⟨rfl, rfl, rfl, rfl, rfl, fun hk => ⟨hk, rfl⟩, (by intro hr; cases hr),
        fun _ => by simp [present, h]⟩
  · exact Ages.refl p

theorem Process.die_not_running (p : Process) : p.die.life ≠ .running := by
  unfold die
  split
  · intro h
    cases h
  · next h => exact h

def Ages (t t' : Table) : Prop := ∀ i : Nat, Option.Rel Process.Ages t[i]? t'[i]?

theorem Ages.refl (t : Table) : Ages t t := by
  intro i
  cases t[i]? with
  | none => exact .none
  | some p => exact .some (.refl p)

theorem Ages.before {t t' : Table} (h : Ages t t') {i : Nat} {p' : Process}
    (hi : t'[i]? = some p') : ∃ p, t[i]? = some p ∧ p.Ages p' := by
  have hrel := h i
  rw [hi] at hrel
  generalize hp : t[i]? = x at hrel
  cases hrel with
  | some hages => exact ⟨_, rfl, hages⟩

theorem Ages.after {t t' : Table} (h : Ages t t') {i : Nat} {p : Process}
    (hi : t[i]? = some p) : ∃ p', t'[i]? = some p' ∧ p.Ages p' := by
  have hrel := h i
  rw [hi] at hrel
  generalize hp : t'[i]? = x at hrel
  cases hrel with
  | some hages => exact ⟨_, rfl, hages⟩

theorem Ages.mem {t t' : Table} (h : Ages t t') {p' : Process} (hp : p' ∈ t') :
    ∃ p ∈ t, p.Ages p' := by
  obtain ⟨i, hi⟩ := List.mem_iff_getElem?.mp hp
  obtain ⟨p, hi', hages⟩ := h.before hi
  exact ⟨p, List.mem_of_getElem? hi', hages⟩

theorem Ages.lt_length {t t' : Table} (h : Ages t t') {i : Nat} (hi : i < t.length) :
    i < t'.length := by
  obtain ⟨p', hp', -⟩ := h.after (List.getElem?_eq_getElem hi)
  exact (List.getElem?_eq_some_iff.mp hp').1

theorem ages_set {t : Table} {i : Nat} {p p' : Process} (hi : t[i]? = some p) (h : p.Ages p') :
    Ages t (t.set i p') := by
  intro j
  cases hj : t[j]? with
  | none =>
      rw [List.getElem?_eq_none (by simpa using List.getElem?_eq_none_iff.mp hj)]
      exact .none
  | some q =>
      rcases getElem?_set_of_some hj i p' with ⟨rfl, hnew⟩ | ⟨-, hold⟩
      · rw [hnew]
        rw [hi] at hj
        cases hj
        exact .some h
      · rw [hold]
        exact .some (.refl q)

theorem ages_map {t : Table} {f : Process → Process} (h : ∀ p : Process, p.Ages (f p)) :
    Ages t (t.map f) := by
  intro j
  rw [List.getElem?_map]
  cases t[j]? with
  | none => exact .none
  | some p => exact .some (h p)

theorem Sound.ages {t t' : Table} (h : Sound t) (hages : Ages t t') : Sound t' := by
  refine ⟨fun p' hp' j hj => ?_, fun i j p' q' hi hj hp hq hpid => ?_, fun p' hp' hpresent => ?_,
    fun p' hp' q' hq' hp hq hpgid => ?_, fun i p' hi hp q' hq' hq hpgid => ?_⟩
  · obtain ⟨p, hp, ha⟩ := hages.mem hp'
    exact hages.lt_length (h.started p hp j (by rw [← ha.parent, hj]))
  · obtain ⟨p, hi', ha⟩ := hages.before hi
    obtain ⟨q, hj', hb⟩ := hages.before hj
    exact h.distinct i j p q hi' hj' (ha.present hp) (hb.present hq)
      (by rw [← ha.pid, ← hb.pid, hpid])
  · obtain ⟨p, hp, ha⟩ := hages.mem hp'
    obtain ⟨q, hq, hpid⟩ := h.founded p hp (ha.present hpresent)
    obtain ⟨q', hq', hb⟩ := hages.after hq
    exact ⟨q', by rw [ha.group, hq'], by rw [hb.pid, hpid, ha.pgid]⟩
  · obtain ⟨p, hp₀, ha⟩ := hages.mem hp'
    obtain ⟨q, hq₀, hb⟩ := hages.mem hq'
    rw [ha.group, hb.group]
    exact h.united p hp₀ q hq₀ (ha.present hp) (hb.present hq) (by rw [← ha.pgid, ← hb.pgid, hpgid])
  · obtain ⟨p, hi', ha⟩ := hages.before hi
    obtain ⟨q, hq₀, hb⟩ := hages.mem hq'
    rw [hb.group]
    exact h.led i p hi' (ha.present hp) q hq₀ (hb.present hq) (by rw [← hb.pgid, ← ha.pid, hpgid])

theorem fresh_of_mem {t : Table} {pid : Nat} (h : fresh t pid = true) {p : Process} (hp : p ∈ t)
    (hpresent : p.present = true) : p.pid ≠ pid ∧ p.pgid ≠ pid := by
  simp only [fresh, Bool.and_eq_true, List.all_eq_true] at h
  have hthis := h.2 p hp
  simpa [hpresent] using hthis

/-- The group that a process gets is there already, or it founds it. -/
def Fits (t : Table) (i pid pgid group : Nat) : Prop :=
  (∃ q ∈ t, q.present = true ∧ q.pgid = pgid ∧ q.group = group) ∨
    (pgid = pid ∧ group = i ∧ ∀ q ∈ t, q.present = true → q.pgid ≠ pid)

theorem fits_of_joins {t : Table} {i pid g pgid group : Nat}
    (h : joins t i pid g = some (pgid, group)) : Fits t i pid pgid group := by
  unfold joins at h
  dsimp only at h
  generalize (if g = 0 then pid else g) = target at h
  split at h
  · next q hq =>
      cases h
      have hmember := List.find?_some hq
      simp only [Bool.and_eq_true, beq_iff_eq] at hmember
      exact Or.inl ⟨q, List.mem_of_find?_eq_some hq, hmember.1, hmember.2, rfl⟩
  · next hnone =>
      split at h
      · next htarget =>
          cases h
          refine Or.inr ⟨htarget, rfl, fun q hq hpresent heq => ?_⟩
          have hnot := List.find?_eq_none.mp hnone q hq
          simp [hpresent, heq, htarget] at hnot
      · cases h

theorem Fits.united {t : Table} {i pid pgid group : Nat} (hfits : Fits t i pid pgid group)
    (h : Sound t) {q : Process} (hq : q ∈ t) (hpresent : q.present = true)
    (hpgid : q.pgid = pgid) : q.group = group := by
  rcases hfits with ⟨r, hr, hrpresent, hrpgid, rfl⟩ | ⟨rfl, -, hnone⟩
  · exact h.united q hq r hr hpresent hrpresent (by rw [hpgid, hrpgid])
  · exact absurd hpgid (hnone q hq hpresent)

theorem Process.present_of_running {p : Process} (h : p.life = .running) : p.present = true := by
  simp [present, h]

theorem Sound.moves {t : Table} (h : Sound t) {i : Nat} {p p' : Process} (hi : t[i]? = some p)
    (hp : p.life = .running) (hpid : p'.pid = p.pid) (hparent : p'.parent = p.parent)
    (hfits : Fits t i p.pid p'.pgid p'.group) : Sound (t.set i p') := by
  have hpresent := Process.present_of_running hp
  -- nothing else changes
  have hbefore : ∀ {j : Nat} {q' : Process}, (t.set i p')[j]? = some q' →
      (j = i ∧ q' = p') ∨ (j ≠ i ∧ t[j]? = some q') := by
    intro j q' hj
    rcases getElem?_set_cases hj with ⟨rfl, rfl⟩ | ⟨hne, hold⟩
    · exact Or.inl ⟨rfl, rfl⟩
    · exact Or.inr ⟨Ne.symm hne, hold⟩
  have hmem : ∀ {q' : Process}, q' ∈ t.set i p' → q' = p' ∨ q' ∈ t := fun hq =>
    (List.mem_or_eq_of_mem_set hq).symm
  have hold : ∀ {j : Nat} {q' : Process}, (t.set i p')[j]? = some q' → q'.present = true →
      ∃ q, t[j]? = some q ∧ q.pid = q'.pid ∧ q.present = true := by
    intro j q' hj hq
    rcases hbefore hj with ⟨rfl, rfl⟩ | ⟨-, hj'⟩
    · exact ⟨p, hi, hpid.symm, hpresent⟩
    · exact ⟨q', hj', rfl, hq⟩
  have hnow : ∀ {j : Nat} {q : Process}, t[j]? = some q →
      ∃ q', (t.set i p')[j]? = some q' ∧ q'.pid = q.pid := by
    intro j q hj
    rcases getElem?_set_of_some hj i p' with ⟨rfl, hnew⟩ | ⟨-, hsame⟩
    · rw [hi] at hj
      cases hj
      exact ⟨p', hnew, hpid⟩
    · exact ⟨q, hsame, rfl⟩
  refine ⟨fun q' hq' j hj => ?_, fun j l q' r' hj hl hq hr hsame => ?_, fun q' hq' hq => ?_,
    fun q' hq' r' hr' hq hr hpgid => ?_, fun j q' hj hq r' hr' hr hpgid => ?_⟩
  · rw [List.length_set]
    rcases hmem hq' with rfl | hq
    · exact h.started p (List.mem_of_getElem? hi) j (by rw [← hparent, hj])
    · exact h.started q' hq j hj
  · obtain ⟨q, hj', hqpid, hqpresent⟩ := hold hj hq
    obtain ⟨r, hl', hrpid, hrpresent⟩ := hold hl hr
    exact h.distinct j l q r hj' hl' hqpresent hrpresent (by rw [hqpid, hrpid, hsame])
  · rcases hmem hq' with rfl | hqmem
    · rcases hfits with ⟨r, hr, hrpresent, hrpgid, hgroup⟩ | ⟨hpgid, hgroup, -⟩
      · obtain ⟨founder, hfounder, hfpid⟩ := h.founded r hr hrpresent
        obtain ⟨founder', hfounder', hsame⟩ := hnow hfounder
        exact ⟨founder', by rw [← hgroup, hfounder'], by rw [hsame, hfpid, hrpgid]⟩
      · obtain ⟨q, hq, hqpid⟩ := hnow hi
        exact ⟨q, by rw [hgroup, hq], by rw [hqpid, hpgid]⟩
    · obtain ⟨founder, hfounder, hfpid⟩ := h.founded q' hqmem hq
      obtain ⟨founder', hfounder', hsame⟩ := hnow hfounder
      exact ⟨founder', hfounder', by rw [hsame, hfpid]⟩
  · rcases hmem hq' with rfl | hqmem
    · rcases hmem hr' with rfl | hrmem
      · rfl
      · exact (hfits.united h hrmem hr hpgid.symm).symm
    · rcases hmem hr' with rfl | hrmem
      · exact hfits.united h hqmem hq hpgid
      · exact h.united q' hqmem r' hrmem hq hr hpgid
  · obtain ⟨q, hj', hqpid, hqpresent⟩ := hold hj hq
    rcases hmem hr' with rfl | hrmem
    · rcases hfits with ⟨m, hm, hmpresent, hmpgid, hgroup⟩ | ⟨hown, hgroup, -⟩
      · rw [← hgroup]
        exact h.led j q hj' hqpresent m hm hmpresent (by rw [hmpgid, hpgid, hqpid])
      · rw [hgroup]
        exact h.distinct i j p q hi hj' hpresent hqpresent (by rw [← hown, hpgid, hqpid])
    · exact h.led j q hj' hqpresent r' hrmem hr (by rw [hpgid, hqpid])

theorem Sound.concat {t : Table} (h : Sound t) {p' : Process} {i : Nat} (hi : i < t.length)
    (hparent : p'.parent = some i) (hfresh : fresh t p'.pid = true)
    (hfits : Fits t t.length p'.pid p'.pgid p'.group) : Sound (t ++ [p']) := by
  have hmem : ∀ {q' : Process}, q' ∈ t ++ [p'] → q' ∈ t ∨ q' = p' := by
    intro q' hq
    exact (List.mem_append.mp hq).imp id List.mem_singleton.mp
  refine ⟨fun q' hq' j hj => ?_, fun j l q' r' hj hl hq hr hsame => ?_, fun q' hq' hq => ?_,
    fun q' hq' r' hr' hq hr hpgid => ?_, fun j q' hj hq r' hr' hr hpgid => ?_⟩
  · rw [List.length_append, List.length_singleton]
    rcases hmem hq' with hqmem | rfl
    · exact Nat.lt_succ_of_lt (h.started q' hqmem j hj)
    · rw [hparent] at hj
      cases hj
      exact Nat.lt_succ_of_lt hi
  · rcases getElem?_concat_cases hj with hj' | ⟨rfl, rfl⟩
    · rcases getElem?_concat_cases hl with hl' | ⟨rfl, rfl⟩
      · exact h.distinct j l q' r' hj' hl' hq hr hsame
      · exact absurd hsame (fresh_of_mem hfresh (List.mem_of_getElem? hj') hq).1
    · rcases getElem?_concat_cases hl with hl' | ⟨rfl, -⟩
      · exact absurd hsame.symm (fresh_of_mem hfresh (List.mem_of_getElem? hl') hr).1
      · rfl
  · rcases hmem hq' with hqmem | rfl
    · obtain ⟨founder, hfounder, hfpid⟩ := h.founded q' hqmem hq
      exact ⟨founder, getElem?_concat_of_some hfounder _, hfpid⟩
    · rcases hfits with ⟨r, hr, hrpresent, hrpgid, hgroup⟩ | ⟨hpgid, hgroup, -⟩
      · obtain ⟨founder, hfounder, hfpid⟩ := h.founded r hr hrpresent
        exact ⟨founder, by rw [← hgroup]; exact getElem?_concat_of_some hfounder _,
          by rw [hfpid, hrpgid]⟩
      · exact ⟨q', by rw [hgroup]; exact List.getElem?_concat_length, hpgid.symm⟩
  · rcases hmem hq' with hqmem | rfl
    · rcases hmem hr' with hrmem | rfl
      · exact h.united q' hqmem r' hrmem hq hr hpgid
      · exact hfits.united h hqmem hq hpgid
    · rcases hmem hr' with hrmem | rfl
      · exact (hfits.united h hrmem hr hpgid.symm).symm
      · rfl
  · rcases getElem?_concat_cases hj with hj' | ⟨rfl, rfl⟩
    · rcases hmem hr' with hrmem | rfl
      · exact h.led j q' hj' hq r' hrmem hr hpgid
      · rcases hfits with ⟨m, hm, hmpresent, hmpgid, hgroup⟩ | ⟨hown, -, -⟩
        · rw [← hgroup]
          exact h.led j q' hj' hq m hm hmpresent (by rw [hmpgid, hpgid])
        · -- the new pid was free
          exact absurd (by rw [← hpgid, hown])
            (fresh_of_mem hfresh (List.mem_of_getElem? hj') hq).1
    · rcases hmem hr' with hrmem | rfl
      · exact absurd hpgid (fresh_of_mem hfresh hrmem hr).2
      · rcases hfits with ⟨m, hm, hmpresent, hmpgid, -⟩ | ⟨-, hgroup, -⟩
        · exact absurd (by rw [hmpgid, hpgid]) (fresh_of_mem hfresh hm hmpresent).2
        · exact hgroup

/-! ### What one step can do -/

/-- The table has aged, a process has changed its group, or one has been forked. -/
inductive Changes (t : Table) : Table → Prop where
  | ages {t'} (h : Ages t t') : Changes t t'
  | moves {i p p'} (hi : t[i]? = some p) (hp : p.life = .running) (hpid : p'.pid = p.pid)
      (hparent : p'.parent = p.parent) (hfits : Fits t i p.pid p'.pgid p'.group)
      (hkept : p'.keptGroup = true → p.keptGroup = true ∧ p'.pgid = p.pgid)
      (hlife : p'.life = .running) (huser : p'.keptUser = p.keptUser) (hmine : p'.mine = p.mine) :
      Changes t (t.set i p')
  | forks {i p pid} (hi : t[i]? = some p) (hp : p.life = .running) (hpid : fresh t pid = true) :
      Changes t (t ++ [⟨pid, some i, p.pgid, p.group, .running, p.mine, true, true⟩])

theorem eq_of_spawn {t t' : Table} {i pid : Nat} {g : Option Nat}
    (h : spawn t i pid g = some t') :
    ∃ p pgid group, t[i]? = some p ∧ p.life = .running ∧ fresh t pid = true ∧
      newGroup t p pid g = some (pgid, group) ∧
      t' = t ++ [⟨pid, some i, pgid, group, .running, p.mine, true, true⟩] := by
  unfold spawn at h
  split at h
  · next p hi =>
      split at h
      · next hcan =>
          obtain ⟨⟨pgid, group⟩, hgroup, rfl⟩ := Option.map_eq_some_iff.mp h
          exact ⟨p, pgid, group, hi, hcan.1, hcan.2, hgroup, rfl⟩
      · cases h
  · cases h

theorem Sound.spawn {t t' : Table} {i pid : Nat} {g : Option Nat} (h : Sound t)
    (hspawn : Posix.spawn t i pid g = some t') : Sound t' := by
  obtain ⟨p, pgid, group, hi, hp, hpid, hgroup, rfl⟩ := eq_of_spawn hspawn
  refine h.concat (List.getElem?_eq_some_iff.mp hi).1 rfl hpid ?_
  cases g with
  | none =>
      cases hgroup
      exact Or.inl ⟨p, List.mem_of_getElem? hi, Process.present_of_running hp, rfl, rfl⟩
  | some g => exact fits_of_joins hgroup

/-- What each event does. -/
inductive EventNext (t : Table) : Event → Table → Prop where
  | fork {i pid p} (hi : t[i]? = some p) (hp : p.life = .running) (hpid : fresh t pid = true) :
      EventNext t (.fork i pid)
        (t ++ [⟨pid, some i, p.pgid, p.group, .running, p.mine, true, true⟩])
  | setpgid {i g p pgid group} (hi : t[i]? = some p) (hp : p.life = .running)
      (h : joins t i p.pid g = some (pgid, group)) :
      EventNext t (.setpgid i g) (t.set i
        { p with pgid := pgid, group := group, keptGroup := p.keptGroup && pgid == p.pgid })
  | setuid {i mine p} (hi : t[i]? = some p) :
      EventNext t (.setuid i mine) (t.set i { p with mine := mine, keptUser := false })
  | exit {i p} (hi : t[i]? = some p) (hp : p.life = .running) :
      EventNext t (.exit i) (t.set i { p with life := .zombie })
  | reap {i p} (hi : t[i]? = some p) (hp : p.life = .zombie) :
      EventNext t (.reap i) (t.set i { p with life := .gone })

theorem eq_of_reap {t t' : Table} {i : Nat} (h : reap t i = some t') :
    ∃ p, t[i]? = some p ∧ p.life = .zombie ∧ t' = t.set i { p with life := .gone } := by
  unfold reap at h
  split at h
  · next p hi =>
      split at h
      · next hp =>
          cases h
          exact ⟨p, hi, hp, rfl⟩
      · cases h
  · cases h

theorem next_of_event {t t' : Table} {e : Event} (h : event t e = some t') :
    EventNext t e t' := by
  cases e with
  | fork i pid =>
      obtain ⟨p, pgid, group, hi, hp, hpid, hgroup, rfl⟩ := eq_of_spawn h
      cases hgroup
      exact .fork hi hp hpid
  | setpgid i g =>
      simp only [event, setpgid] at h
      split at h
      · next p hi =>
          split at h
          · next hp =>
              obtain ⟨⟨pgid, group⟩, hjoins, rfl⟩ := Option.map_eq_some_iff.mp h
              exact .setpgid hi hp hjoins
          · cases h
      · cases h
  | setuid i mine =>
      simp only [event, setuid] at h
      split at h
      · next p hi =>
          split at h
          · cases h
            exact .setuid hi
          · cases h
      · cases h
  | exit i =>
      simp only [event, exit] at h
      split at h
      · next p hi =>
          split at h
          · next hp =>
              cases h
              exact .exit hi hp
          · cases h
      · cases h
  | reap i =>
      obtain ⟨p, hi, hp, rfl⟩ := eq_of_reap h
      exact .reap hi hp

theorem ages_reap {t t' : Table} {i : Nat} (h : reap t i = some t') : Ages t t' := by
  obtain ⟨p, hi, -, rfl⟩ := eq_of_reap h
  exact ages_set hi ⟨rfl, rfl, rfl, rfl, rfl, fun hk => ⟨hk, rfl⟩, (by intro hr; cases hr),
    (by intro hr; cases hr)⟩

theorem changes_event {t t' : Table} {e : Event} (h : event t e = some t') : Changes t t' := by
  cases next_of_event h with
  | fork hi hp hpid => exact .forks hi hp hpid
  | setpgid hi hp hjoins =>
      exact .moves hi hp rfl rfl (fits_of_joins hjoins) (by simp) hp rfl rfl
  | setuid hi =>
      exact .ages (ages_set hi ⟨rfl, rfl, rfl, rfl, rfl, (by intro hk; cases hk), id, id⟩)
  | exit hi hp =>
      exact .ages (ages_set hi ⟨rfl, rfl, rfl, rfl, rfl, fun hk => ⟨hk, rfl⟩,
        (by intro hr; cases hr), fun _ => Process.present_of_running hp⟩)
  | reap => exact .ages (ages_reap h)

theorem ages_killGroup {t t' : Table} {g : Nat} (h : killGroup t g = .ok t') : Ages t t' := by
  unfold killGroup at h
  split at h
  · cases h
    refine ages_map fun p => ?_
    split
    · exact p.ages_die
    · exact .refl p
  · split at h <;> cases h

theorem ages_kill {t t' : Table} {i : Nat} (h : kill t i = .ok t') : Ages t t' := by
  unfold kill at h
  split at h
  · next p hi =>
      split at h
      · split at h
        · cases h
          exact ages_set hi p.ages_die
        · cases h
      · cases h
  · cases h

theorem Sound.changes {t t' : Table} (h : Sound t) (hchanges : Changes t t') : Sound t' := by
  cases hchanges with
  | ages hages => exact h.ages hages
  | moves hi hp hpid hparent hfits => exact h.moves hi hp hpid hparent hfits
  | forks hi hp hpid =>
      refine h.concat (List.getElem?_eq_some_iff.mp hi).1 rfl hpid (Or.inl ?_)
      exact ⟨_, List.mem_of_getElem? hi, Process.present_of_running hp, rfl, rfl⟩

/-! ### The line of a process -/

/-- The `k`-th process, and those that come from it by forks, as long as each has been in one group
    and has run for one user since it was started. -/
inductive Line (t : Table) (k : Nat) : Nat → Prop where
  | root {p} (hk : t[k]? = some p) (hgroup : p.keptGroup = true) (huser : p.keptUser = true) :
      Line t k k
  | child {i j p} (hi : t[i]? = some p) (hparent : p.parent = some j) (hgroup : p.keptGroup = true)
      (huser : p.keptUser = true) (h : Line t k j) : Line t k i

/-- The `k`-th process and all that come from it. -/
inductive Descends (t : Table) (k : Nat) : Nat → Prop where
  | root : Descends t k k
  | child {i j p} (hi : t[i]? = some p) (hparent : p.parent = some j) (h : Descends t k j) :
      Descends t k i

/-- Where all have kept their group and their user, the line are all descendants. -/
theorem Descends.line {t : Table} {k i : Nat} (h : Descends t k i) (hk : k < t.length)
    (hkept : ∀ p ∈ t, p.keptGroup = true ∧ p.keptUser = true) : Line t k i := by
  induction h with
  | root =>
      have hroot := List.getElem?_eq_getElem hk
      obtain ⟨hgroup, huser⟩ := hkept _ (List.mem_of_getElem? hroot)
      exact .root hroot hgroup huser
  | child hi hparent _ ih =>
      obtain ⟨hgroup, huser⟩ := hkept _ (List.mem_of_getElem? hi)
      exact .child hi hparent hgroup huser ih

/-- The processes of the line are in one group, and the observer may signal them. -/
def Lined (t : Table) (k g : Nat) : Prop :=
  ∀ i p, Line t k i → t[i]? = some p → p.pgid = g ∧ p.mine = true

/-- No process of the line runs. -/
def Extinct (t : Table) (k : Nat) : Prop :=
  ∀ i p, Line t k i → t[i]? = some p → p.life ≠ .running

theorem Line.of_ages {t t' : Table} {k i : Nat} (hages : Ages t t') (h : Line t' k i) :
    Line t k i := by
  induction h with
  | root hk hgroup huser =>
      obtain ⟨p, hp, ha⟩ := hages.before hk
      exact .root hp (by rw [← ha.keptGroup, hgroup]) (ha.user huser).1
  | child hi hparent hgroup huser _ ih =>
      obtain ⟨p, hp, ha⟩ := hages.before hi
      exact .child hp (by rw [← ha.parent, hparent]) (by rw [← ha.keptGroup, hgroup])
        (ha.user huser).1 ih

theorem Line.of_moves {t : Table} {k i j : Nat} {p p' : Process} (hi : t[i]? = some p)
    (hparent : p'.parent = p.parent) (hkept : p'.keptGroup = true → p.keptGroup = true)
    (huser : p'.keptUser = p.keptUser) (h : Line (t.set i p') k j) : Line t k j := by
  induction h with
  | root hk hgroup hu =>
      rcases getElem?_set_cases hk with ⟨rfl, rfl⟩ | ⟨-, hold⟩
      · exact .root hi (hkept hgroup) (by rw [← huser, hu])
      · exact .root hold hgroup hu
  | child hl hpar hgroup hu _ ih =>
      rcases getElem?_set_cases hl with ⟨rfl, rfl⟩ | ⟨-, hold⟩
      · exact .child hi (by rw [← hparent, hpar]) (hkept hgroup) (by rw [← huser, hu]) ih
      · exact .child hold hpar hgroup hu ih

/-- Nobody loses a parent. -/
theorem Changes.after {t t' : Table} (h : Changes t t') {i : Nat} {p : Process}
    (hi : t[i]? = some p) : ∃ p', t'[i]? = some p' ∧ p'.parent = p.parent ∧ p'.pid = p.pid := by
  cases h with
  | ages hages =>
      obtain ⟨p', hp', ha⟩ := hages.after hi
      exact ⟨p', hp', ha.parent, ha.pid⟩
  | @moves j q q' hj _ hpid hparent =>
      rcases getElem?_set_of_some hi j q' with ⟨rfl, hnew⟩ | ⟨-, hsame⟩
      · rw [hj] at hi
        cases hi
        exact ⟨q', hnew, hparent, hpid⟩
      · exact ⟨p, hsame, rfl, rfl⟩
  | forks => exact ⟨p, getElem?_concat_of_some hi _, rfl, rfl⟩

theorem Descends.changes {t t' : Table} {k i : Nat} (hchanges : Changes t t')
    (h : Descends t k i) : Descends t' k i := by
  induction h with
  | root => exact .root
  | child hi hparent _ ih =>
      obtain ⟨p', hp', hpar, -⟩ := hchanges.after hi
      exact .child hp' (by rw [hpar, hparent]) ih

theorem Line.lt_length {t : Table} {k i : Nat} (h : Line t k i) : i < t.length := by
  cases h with
  | root hk => exact (List.getElem?_eq_some_iff.mp hk).1
  | child hi => exact (List.getElem?_eq_some_iff.mp hi).1

/-- Whoever is in the line was in it before, or has just been forked by one that was. -/
theorem Line.of_concat {t : Table} (hsound : Sound t) {k i j : Nat} {c : Process}
    (hk : k < t.length) (hparent : c.parent = some i) (hi : i < t.length)
    (h : Line (t ++ [c]) k j) : Line t k j ∨ (j = t.length ∧ Line t k i) := by
  induction h with
  | root hroot hgroup huser =>
      rcases getElem?_concat_cases hroot with hold | ⟨rfl, -⟩
      · exact Or.inl (.root hold hgroup huser)
      · exact absurd hk (Nat.lt_irrefl _)
  | child hl hpar hgroup huser _ ih =>
      rcases getElem?_concat_cases hl with hold | ⟨rfl, rfl⟩
      · have hlt := hsound.started _ (List.mem_of_getElem? hold) _ hpar
        rcases ih with hline | ⟨rfl, -⟩
        · exact Or.inl (.child hold hpar hgroup huser hline)
        · exact absurd hlt (Nat.lt_irrefl _)
      · rw [hparent] at hpar
        cases hpar
        rcases ih with hline | ⟨rfl, -⟩
        · exact Or.inr ⟨rfl, hline⟩
        · exact absurd hi (Nat.lt_irrefl _)

/-- A new process has no children. -/
theorem Line.eq_of_concat {t : Table} (hsound : Sound t) {j : Nat} {c : Process}
    (h : Line (t ++ [c]) t.length j) : j = t.length := by
  induction h with
  | root => rfl
  | child hl hparent _ _ _ ih =>
      rcases getElem?_concat_cases hl with hold | ⟨rfl, -⟩
      · have hlt := hsound.started _ (List.mem_of_getElem? hold) _ hparent
        rw [ih] at hlt
        exact absurd hlt (Nat.lt_irrefl _)
      · rfl

theorem eq_of_joins_zero {t : Table} {i pid pgid group : Nat}
    (h : joins t i pid 0 = some (pgid, group)) : pgid = pid := by
  simp only [joins, if_true] at h
  split at h <;> cases h <;> rfl

/-- The line of a process that founds its group when it is started. -/
theorem lined_spawn {t t' : Table} {i pid : Nat} {p : Process} (hsound : Sound t)
    (h : spawn t i pid (some 0) = some t') (hi : t[i]? = some p) (hmine : p.mine = true) :
    Lined t' t.length pid := by
  obtain ⟨q, pgid, group, hq, hrunning, hpid, hgroup, rfl⟩ := eq_of_spawn h
  rw [hi] at hq
  cases hq
  intro j c hline hc
  rw [hline.eq_of_concat hsound, List.getElem?_concat_length] at hc
  cases hc
  exact ⟨eq_of_joins_zero hgroup, hmine⟩

theorem Lined.changes {t t' : Table} {k g : Nat} (hsound : Sound t) (hk : k < t.length)
    (h : Lined t k g) (hchanges : Changes t t') : Lined t' k g := by
  intro i p' hline hp'
  cases hchanges with
  | ages hages =>
      obtain ⟨p, hp, ha⟩ := hages.before hp'
      obtain ⟨hpgid, hmine⟩ := h i p (hline.of_ages hages) hp
      have huser : p'.keptUser = true := by
        cases hline with
        | root hroot _ hu | child hroot _ _ hu =>
            rw [hp'] at hroot
            cases hroot
            exact hu
      exact ⟨by rw [ha.pgid, hpgid], by rw [(ha.user huser).2, hmine]⟩
  | @moves j p q hj hp hpid hparent hfits hkept hlife huser hmine =>
      have hold := hline.of_moves hj hparent (fun hq => (hkept hq).1) huser
      rcases getElem?_set_cases hp' with ⟨rfl, rfl⟩ | ⟨-, hsame⟩
      · obtain ⟨hpgid, hm⟩ := h j p hold hj
        have hgroup : p'.keptGroup = true := by
          cases hline with
          | root hroot hg | child hroot _ hg =>
              rw [hp'] at hroot
              cases hroot
              exact hg
        exact ⟨by rw [(hkept hgroup).2, hpgid], by rw [hmine, hm]⟩
      · exact h i p' hold hsame
  | @forks j p pid hj hp hpid =>
      have hlt := (List.getElem?_eq_some_iff.mp hj).1
      rcases getElem?_concat_cases hp' with hsame | ⟨rfl, rfl⟩
      · rcases hline.of_concat hsound hk rfl hlt with hold | ⟨rfl, -⟩
        · exact h i p' hold hsame
        · exact absurd (List.getElem?_eq_some_iff.mp hsame).1 (Nat.lt_irrefl _)
      · rcases hline.of_concat hsound hk rfl hlt with hold | ⟨-, hparent⟩
        · exact absurd hold.lt_length (Nat.lt_irrefl _)
        · exact h j p hparent hj

/-- A line that has died out stays so: the dead do not fork. -/
theorem Extinct.changes {t t' : Table} {k : Nat} (hsound : Sound t) (hk : k < t.length)
    (h : Extinct t k) (hchanges : Changes t t') : Extinct t' k := by
  intro i p' hline hp' hrunning
  cases hchanges with
  | ages hages =>
      obtain ⟨p, hp, ha⟩ := hages.before hp'
      exact h i p (hline.of_ages hages) hp (ha.running hrunning)
  | @moves j p q hj hp hpid hparent hfits hkept hlife huser hmine =>
      have hold := hline.of_moves hj hparent (fun hq => (hkept hq).1) huser
      rcases getElem?_set_cases hp' with ⟨rfl, rfl⟩ | ⟨-, hsame⟩
      · exact h j p hold hj hp
      · exact h i p' hold hsame hrunning
  | @forks j p pid hj hp hpid =>
      have hlt := (List.getElem?_eq_some_iff.mp hj).1
      rcases hline.of_concat hsound hk rfl hlt with hold | ⟨-, hparent⟩
      · rcases getElem?_concat_cases hp' with hsame | ⟨rfl, -⟩
        · exact h i p' hold hsame hrunning
        · exact absurd hold.lt_length (Nat.lt_irrefl _)
      · exact h j p hparent hj hp

/-- `SIGKILL` for the group of a line, whatever it gives. -/
theorem extinct_of_killGroup {t t' : Table} {k g : Nat} (hlined : Lined t k g)
    (h : killGroup t g = .ok t') : Extinct t' k := by
  intro i p' hline hp' hrunning
  obtain ⟨p, hp, ha⟩ := (ages_killGroup h).before hp'
  obtain ⟨hpgid, hmine⟩ := hlined i p (hline.of_ages (ages_killGroup h)) hp
  unfold killGroup at h
  split at h
  · cases h
    rw [List.getElem?_map, hp] at hp'
    cases hp'
    have hpresent := Process.present_of_running (ha.running hrunning)
    have hmember : (p.member g && p.mine) = true := by
      simp [Process.member, hpresent, hpgid, hmine]
    dsimp only at hrunning
    rw [if_pos hmember] at hrunning
    exact p.die_not_running hrunning
  · split at h <;> cases h

theorem extinct_of_killGroup_error {t : Table} {k g : Nat} {e : Errno} (hlined : Lined t k g)
    (h : killGroup t g = .error e) : Extinct t k := by
  intro i p hline hp hrunning
  obtain ⟨hpgid, hmine⟩ := hlined i p hline hp
  unfold killGroup at h
  split at h
  · cases h
  · next hnone =>
      apply hnone
      rw [List.any_eq_true]
      have hpresent := Process.present_of_running hrunning
      exact ⟨p, List.mem_of_getElem? hp, by simp [Process.member, hpresent, hpgid, hmine]⟩

/-- Only members of the group are hit. -/
theorem member_of_killGroup {t t' : Table} {g i : Nat} {p p' : Process}
    (h : killGroup t g = .ok t') (hp : t[i]? = some p) (hp' : t'[i]? = some p')
    (hrunning : p.life = .running) (hdead : p'.life ≠ .running) : p.pgid = g := by
  unfold killGroup at h
  split at h
  · cases h
    rw [List.getElem?_map, hp] at hp'
    cases hp'
    by_contra hne
    apply hdead
    dsimp only
    rw [if_neg]
    · exact hrunning
    · simp [Process.member, hne]
  · split at h <;> cases h

theorem eq_of_kill {t t' : Table} {k i : Nat} {p p' : Process} (h : kill t k = .ok t')
    (hp : t[i]? = some p) (hp' : t'[i]? = some p') (hrunning : p.life = .running)
    (hdead : p'.life ≠ .running) : i = k := by
  unfold kill at h
  split at h
  · split at h
    · split at h
      · cases h
        by_contra hne
        rw [List.getElem?_set_ne (Ne.symm hne), hp] at hp'
        cases hp'
        exact hdead hrunning
      · cases h
    · cases h
  · cases h

/-! ### Who is still there -/

/-- The `k`-th process is still there if it was. -/
def Stays (t t' : Table) (k : Nat) : Prop :=
  ∀ p p', t[k]? = some p → t'[k]? = some p' → p.present = true → p'.present = true

theorem stays_set {t : Table} {i k : Nat} {p p' : Process} (hi : t[i]? = some p)
    (h : i = k → p.present = true → p'.present = true) : Stays t (t.set i p') k := by
  intro q q' hq hq' hpresent
  rcases getElem?_set_cases hq' with ⟨rfl, rfl⟩ | ⟨-, hsame⟩
  · rw [hi] at hq
    cases hq
    exact h rfl hpresent
  · rw [hq] at hsame
    cases hsame
    exact hpresent

theorem Process.present_die {p : Process} (h : p.present = true) : p.die.present = true := by
  unfold die
  split
  · rfl
  · exact h

theorem stays_event {t t' : Table} {e : Event} {k : Nat} (h : event t e = some t')
    (he : e ≠ .reap k) : Stays t t' k := by
  cases next_of_event h with
  | fork =>
      intro q q' hq hq' hpresent
      rw [getElem?_concat_of_some hq] at hq'
      cases hq'
      exact hpresent
  | setpgid hi | setuid hi => exact stays_set hi fun _ hpresent => hpresent
  | exit hi => exact stays_set hi fun _ _ => rfl
  | reap hi => exact stays_set hi fun heq => absurd (congrArg Event.reap heq) he

theorem stays_killGroup {t t' : Table} {g : Nat} (h : killGroup t g = .ok t') (k : Nat) :
    Stays t t' k := by
  intro p p' hp hp' hpresent
  unfold killGroup at h
  split at h
  · cases h
    rw [List.getElem?_map, hp] at hp'
    cases hp'
    dsimp only
    split
    · exact Process.present_die hpresent
    · exact hpresent
  · split at h <;> cases h

theorem stays_kill {t t' : Table} {i : Nat} (h : kill t i = .ok t') (k : Nat) : Stays t t' k := by
  unfold kill at h
  split at h
  · next p hi =>
      split at h
      · split at h
        · cases h
          exact stays_set hi fun _ => Process.present_die
        · cases h
      · cases h
  · cases h

/-- Only a change of its own user changes whether a process may be signalled. -/
theorem mine_of_event {t t' : Table} {e : Event} {h : Nat} (hevent : event t e = some t')
    (he : ∀ mine, e ≠ .setuid h mine) {p : Process} (hp : t[h]? = some p) :
    ∃ p', t'[h]? = some p' ∧ p'.mine = p.mine := by
  have hset : ∀ {i : Nat} {q q' : Process}, t[i]? = some q → (i = h → q'.mine = q.mine) →
      ∃ p', (t.set i q')[h]? = some p' ∧ p'.mine = p.mine := by
    intro i q q' hi hmine
    rcases getElem?_set_of_some hp i q' with ⟨rfl, hnew⟩ | ⟨-, hsame⟩
    · rw [hi] at hp
      cases hp
      exact ⟨q', hnew, hmine rfl⟩
    · exact ⟨p, hsame, rfl⟩
  cases next_of_event hevent with
  | fork => exact ⟨p, getElem?_concat_of_some hp _, rfl⟩
  | setuid hi => exact hset hi fun heq => absurd (by rw [heq]) (he _)
  | setpgid hi | exit hi | reap hi => exact hset hi fun _ => rfl

/-- The user of a process is known from the time before. -/
theorem user_of_changes {t t' : Table} (h : Changes t t') {k : Nat} {p' : Process}
    (hk : k < t.length) (hp' : t'[k]? = some p') (hmine : p'.mine = true)
    (huser : p'.keptUser = true) (hpresent : p'.present = true) :
    ∃ p, t[k]? = some p ∧ p.mine = true ∧ p.keptUser = true ∧ p.present = true := by
  cases h with
  | ages hages =>
      obtain ⟨p, hp, ha⟩ := hages.before hp'
      obtain ⟨hu, hm⟩ := ha.user huser
      exact ⟨p, hp, by rw [← hm, hmine], hu, ha.present hpresent⟩
  | @moves i p q hi hp hpid hparent hfits hkept hlife hu hm =>
      rcases getElem?_set_cases hp' with ⟨rfl, rfl⟩ | ⟨-, hsame⟩
      · exact ⟨p, hi, by rw [← hm, hmine], by rw [← hu, huser], Process.present_of_running hp⟩
      · exact ⟨p', hsame, hmine, huser, hpresent⟩
  | forks =>
      rcases getElem?_concat_cases hp' with hsame | ⟨rfl, -⟩
      · exact ⟨p', hsame, hmine, huser, hpresent⟩
      · exact absurd hk (Nat.lt_irrefl _)

theorem lookup_eq_some {t : Table} {pid i : Nat} (h : lookup t pid = some i) :
    ∃ p, t[i]? = some p ∧ p.present = true ∧ p.pid = pid := by
  obtain ⟨hlt, hi, -⟩ := List.findIdx?_eq_some_iff_getElem.mp h
  simp only [Bool.and_eq_true, beq_iff_eq] at hi
  exact ⟨t[i], List.getElem?_eq_getElem hlt, hi.1, hi.2⟩

/-- A process that is there and has the pid is the one that is found. -/
theorem lookup_of_present {t : Table} (hsound : Sound t) {k : Nat} {p : Process}
    (hk : t[k]? = some p) (hpresent : p.present = true) : lookup t p.pid = some k := by
  cases hl : lookup t p.pid with
  | none =>
      have hnone := List.findIdx?_eq_none_iff.mp hl p (List.mem_of_getElem? hk)
      simp [hpresent] at hnone
  | some i =>
      obtain ⟨q, hq, hqpresent, hpid⟩ := lookup_eq_some hl
      rw [hsound.distinct i k q p hq hk hqpresent hpresent hpid]

end Posix
