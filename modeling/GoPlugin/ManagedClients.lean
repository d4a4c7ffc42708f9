import GoPlugin.KillReturns

/-!
# Managed clients (`CleanupClients`)

A host has any number of clients.  Those with `Managed` are in `managedClients`, which `NewClient`
appends to and the body of `Kill` removes from.  `CleanupClients` goes over the list under its lock,
starts a goroutine with a `Kill` call for each client, and waits for them.

The list is one for all clients: a client's step is taken with the host's list, and the list that
it leaves is the host's next one.  The critical sections of the list's lock are one step each.
-/

namespace GoPlugin

open Tally LabelledSystem

/-- Where a goroutine of `CleanupClients` stands. -/
inductive KillerPc where
  | calling             -- before `client.Kill()`
  | killing (t : Nat)   -- in the client's `t`-th `Kill` call
  | finished            -- after `wg.Done()`
deriving DecidableEq, Repr

def KillerPc.member : KillerPc → Nat
  | .finished => 0
  | _ => 1

/-- The `Kill` call that is yet to be made takes two steps. -/
def KillerPc.stepsLeft : KillerPc → Nat
  | .calling => 4
  | .killing _ => 1
  | .finished => 0

/-- Where a `CleanupClients` call stands; a goroutine is for the client of that number. -/
inductive CleanupPc where
  | entering                                              -- before it takes the lock
  | waiting (wg : Nat) (killers : List (Nat × KillerPc))  -- in `wg.Wait`
  | returned
deriving DecidableEq, Repr

def CleanupPc.stepsLeft : CleanupPc → Nat
  | .entering => 2
  | .waiting _ killers => 1 + tally (fun p => p.2.stepsLeft) killers
  | .returned => 0

structure Host where
  clients : List (LaunchConfig × Client)
  managedClients : List Nat
  killed : Bool
  cleanups : List CleanupPc
deriving DecidableEq, Repr

namespace Host

def init : Host := ⟨[], [], false, []⟩

inductive Act where
  | newClient (mode : LaunchMode) (managed : Bool)
  | client (i : Nat) (a : Client.Act)
  | cleanup                   -- a goroutine calls `CleanupClients`
  | snapshot (k n : Nat)      -- the `k`-th call finds `n` clients
  | killer (k j : Nat)        -- its `j`-th goroutine goes on
  | done (k : Nat)            -- its `wg.Wait` returns
deriving DecidableEq, Repr

/-- The `i`-th client goes on. -/
def clientStep (h : Host) (i : Nat) (a : Client.Act) : Option Host :=
  match h.clients[i]? with
  | some (cfg, c) =>
      (Client.step cfg { c with managedClients := h.managedClients } a).map fun c' =>
        { h with clients := h.clients.set i (cfg, c'), managedClients := c'.managedClients }
  | none => none

def killerStep (h : Host) (k j : Nat) : Option Host :=
  match h.cleanups[k]? with
  | some (.waiting wg killers) =>
      match killers[j]? with
      | some (i, .calling) =>
          match h.clients[i]? with
          | some (_, c) =>
              (h.clientStep i .kill).map fun h' =>
                { h' with
                  cleanups :=
                    h.cleanups.set k (.waiting wg (killers.set j (i, .killing c.calls.length))) }
          | none => none
      | some (i, .killing t) =>
          match h.clients[i]? with
          | some (_, c) =>
              if c.calls[t]? = some .returned then
                some { h with
                  cleanups := h.cleanups.set k (.waiting (wg - 1) (killers.set j (i, .finished))) }
              else none
          | none => none
      | _ => none
  | _ => none

def step (h : Host) : Act → Option Host
  | .newClient mode managed =>
      let cfg : LaunchConfig := ⟨mode, managed, h.clients.length⟩
      let c := Client.newClient cfg h.managedClients
      some { h with clients := h.clients ++ [(cfg, c)], managedClients := c.managedClients }
  | .client i a => h.clientStep i a
  | .cleanup => some { h with killed := true, cleanups := h.cleanups ++ [.entering] }
  | .snapshot k n =>
      if h.cleanups[k]? = some .entering ∧ n = h.managedClients.length then
        some { h with
          cleanups := h.cleanups.set k
            (.waiting n (h.managedClients.map fun i => (i, .calling))) }
      else none
  | .killer k j => h.killerStep k j
  | .done k =>
      match h.cleanups[k]? with
      | some (.waiting 0 _) => some { h with cleanups := h.cleanups.set k .returned }
      | _ => none

/-! ### What one step can do -/

inductive Next (h : Host) : Act → Host → Prop where
  | newClient {mode managed cfg} (hcfg : cfg = ⟨mode, managed, h.clients.length⟩) :
      Next h (.newClient mode managed)
        { h with
          clients := h.clients ++ [(cfg, Client.newClient cfg h.managedClients)]
          managedClients := (Client.newClient cfg h.managedClients).managedClients }
  | client {i a cfg c c'} (hi : h.clients[i]? = some (cfg, c))
      (hstep : Client.step cfg { c with managedClients := h.managedClients } a = some c') :
      Next h (.client i a)
        { h with clients := h.clients.set i (cfg, c'), managedClients := c'.managedClients }
  | cleanup : Next h .cleanup { h with killed := true, cleanups := h.cleanups ++ [.entering] }
  | snapshot {k} (hk : h.cleanups[k]? = some .entering) :
      Next h (.snapshot k h.managedClients.length)
        { h with
          cleanups := h.cleanups.set k
            (.waiting h.managedClients.length (h.managedClients.map fun i => (i, .calling))) }
  | call {k j wg killers i cfg c c'} (hk : h.cleanups[k]? = some (.waiting wg killers))
      (hj : killers[j]? = some (i, .calling)) (hi : h.clients[i]? = some (cfg, c))
      (hstep : Client.step cfg { c with managedClients := h.managedClients } .kill = some c') :
      Next h (.killer k j)
        { h with
          clients := h.clients.set i (cfg, c')
          managedClients := c'.managedClients
          cleanups :=
            h.cleanups.set k (.waiting wg (killers.set j (i, .killing c.calls.length))) }
  | finish {k j wg killers i t cfg c} (hk : h.cleanups[k]? = some (.waiting wg killers))
      (hj : killers[j]? = some (i, .killing t)) (hi : h.clients[i]? = some (cfg, c))
      (ht : c.calls[t]? = some .returned) :
      Next h (.killer k j)
        { h with
          cleanups := h.cleanups.set k (.waiting (wg - 1) (killers.set j (i, .finished))) }
  | done {k killers} (hk : h.cleanups[k]? = some (.waiting 0 killers)) :
      Next h (.done k) { h with cleanups := h.cleanups.set k .returned }

theorem clientStep_eq_some {h h' : Host} {i : Nat} {a : Client.Act}
    (hstep : h.clientStep i a = some h') :
    ∃ cfg c c', h.clients[i]? = some (cfg, c) ∧
      Client.step cfg { c with managedClients := h.managedClients } a = some c' ∧
      h' = { h with
        clients := h.clients.set i (cfg, c'), managedClients := c'.managedClients } := by
  unfold clientStep at hstep
  split at hstep
  · next cfg c hi =>
      obtain ⟨c', hc', rfl⟩ := Option.map_eq_some_iff.mp hstep
      exact ⟨cfg, c, c', hi, hc', rfl⟩
  · cases hstep

theorem next_of_killerStep {h h' : Host} {k j : Nat} (hstep : h.killerStep k j = some h') :
    Next h (.killer k j) h' := by
  unfold killerStep at hstep
  split at hstep
  · next wg killers hk =>
      split at hstep
      · next i hj =>
          split at hstep
          · next cfg c hi =>
              obtain ⟨h₁, hh₁, rfl⟩ := Option.map_eq_some_iff.mp hstep
              obtain ⟨cfg', c₁, c', hi', hc', rfl⟩ := clientStep_eq_some hh₁
              cases hi.symm.trans hi'
              exact .call hk hj hi hc'
          · cases hstep
      · next i t hj =>
          split at hstep
          · next cfg c hi =>
              split at hstep
              · next ht =>
                  cases hstep
                  exact .finish hk hj hi ht
              · cases hstep
          · cases hstep
      · cases hstep
  · cases hstep

theorem next_of_step {h h' : Host} {a : Act} (hstep : step h a = some h') : Next h a h' := by
  cases a with
  | newClient mode managed =>
      cases hstep
      exact .newClient rfl
  | client i a =>
      obtain ⟨cfg, c, c', hi, hc', rfl⟩ := clientStep_eq_some hstep
      exact .client hi hc'
  | cleanup =>
      cases hstep
      exact .cleanup
  | snapshot k n =>
      simp only [step] at hstep
      split at hstep
      · next hcond =>
          obtain ⟨hk, rfl⟩ := hcond
          cases hstep
          exact .snapshot hk
      · cases hstep
  | killer k j => exact next_of_killerStep hstep
  | done k =>
      simp only [step] at hstep
      split at hstep
      · next hk =>
          cases hstep
          exact .done hk
      · cases hstep

/-- What becomes of the `i`-th client: nothing, or a step with the host's list. -/
def Evolves (h : Host) (i : Nat) (a : Act) (cfg : LaunchConfig) (c c' : Client) : Prop :=
  c' = c ∨ ∃ b, (b = .kill ∨ a = .client i b) ∧
    Client.step cfg { c with managedClients := h.managedClients } b = some c'

/-- Clients stay. -/
theorem Next.evolves {h h' : Host} {a : Act} (hnext : Next h a h') {i : Nat} {cfg : LaunchConfig}
    {c : Client} (hi : h.clients[i]? = some (cfg, c)) :
    ∃ c', h'.clients[i]? = some (cfg, c') ∧ Evolves h i a cfg c c' := by
  have hset : ∀ {m : Nat} {cfg₀ : LaunchConfig} {c₀ c₀' : Client} {b : Client.Act},
      h.clients[m]? = some (cfg₀, c₀) → (b = .kill ∨ a = .client m b) →
      Client.step cfg₀ { c₀ with managedClients := h.managedClients } b = some c₀' →
      ∃ c', (h.clients.set m (cfg₀, c₀'))[i]? = some (cfg, c') ∧ Evolves h i a cfg c c' := by
    intro m cfg₀ c₀ c₀' b hm hb hstep
    rcases getElem?_set_of_some hi m (cfg₀, c₀') with ⟨rfl, hnew⟩ | ⟨-, hold⟩
    · cases hi.symm.trans hm
      exact ⟨c₀', hnew, Or.inr ⟨b, hb, hstep⟩⟩
    · exact ⟨c, hold, Or.inl rfl⟩
  cases hnext with
  | newClient => exact ⟨c, getElem?_concat_of_some hi _, Or.inl rfl⟩
  | client hm hstep => exact hset hm (Or.inr rfl) hstep
  | call hk hj hm hstep => exact hset hm (Or.inl rfl) hstep
  | cleanup | snapshot | finish | done => exact ⟨c, hi, Or.inl rfl⟩

/-- And none comes but by `NewClient`. -/
theorem Next.origin {h h' : Host} {a : Act} (hnext : Next h a h') {i : Nat} {cfg : LaunchConfig}
    {c' : Client} (hi : h'.clients[i]? = some (cfg, c')) :
    (∃ c, h.clients[i]? = some (cfg, c) ∧ Evolves h i a cfg c c') ∨
      (cfg.self = i ∧ c' = Client.newClient cfg h.managedClients) := by
  have hset : ∀ {m : Nat} {cfg₀ : LaunchConfig} {c₀ c₀' : Client} {b : Client.Act},
      h.clients[m]? = some (cfg₀, c₀) → (b = .kill ∨ a = .client m b) →
      Client.step cfg₀ { c₀ with managedClients := h.managedClients } b = some c₀' →
      (h.clients.set m (cfg₀, c₀'))[i]? = some (cfg, c') →
      ∃ c, h.clients[i]? = some (cfg, c) ∧ Evolves h i a cfg c c' := by
    intro m cfg₀ c₀ c₀' b hm hb hstep hset
    rcases getElem?_set_cases hset with ⟨rfl, heq⟩ | ⟨-, hold⟩
    · cases heq
      exact ⟨c₀, hm, Or.inr ⟨b, hb, hstep⟩⟩
    · exact ⟨c', hold, Or.inl rfl⟩
  cases hnext with
  | newClient hcfg =>
      rcases getElem?_concat_cases hi with hold | ⟨hlength, heq⟩
      · exact Or.inl ⟨c', hold, Or.inl rfl⟩
      · cases heq
        exact Or.inr ⟨hcfg ▸ hlength.symm, rfl⟩
  | client hm hstep => exact Or.inl (hset hm (Or.inr rfl) hstep hi)
  | call hk hj hm hstep => exact Or.inl (hset hm (Or.inl rfl) hstep hi)
  | cleanup | snapshot | finish | done => exact Or.inl ⟨c', hi, Or.inl rfl⟩

end Host

/-! ### What holds of each client -/

namespace Client

/-- A runner of a command has taken the command's pipes. -/
def Piped (cfg : LaunchConfig) (s : Client) : Prop :=
  cfg.mode = .cmd → s.runner ≠ none → s.piped = true

theorem Piped.move {cfg : LaunchConfig} {s s' : Client} {a : Act} (h : Piped cfg s)
    (hmove : Move cfg s a s') : Piped cfg s' := by
  intro hcmd hrunner
  cases hmove with
  | create hc => exact (hc.piped hcmd).1
  | stay hpiped => exact hpiped (h hcmd hrunner)
  | tidy ho hlate hlate' hcleared =>
      rcases hcleared with rfl | rfl
      · exact h hcmd hrunner
      · exact absurd rfl hrunner
  | _ => exact h hcmd hrunner

/-- A client with a command needs no permission. -/
theorem permits_of_cmd {cfg : LaunchConfig} {s s' : Client} {a : Act} (hcmd : cfg.mode = .cmd)
    (hpiped : Piped cfg s) (hstep : step cfg s a = some s') :
    s.barred cfg = true ∨ s.permits cfg a = true := by
  cases a with
  | call t =>
      by_cases hrunner : s.runner = none
      · exact Or.inr (by simp [permits, hrunner])
      · exact Or.inl (by simp [barred, hcmd, hpiped hcmd hrunner])
  | start o =>
      by_cases haddress : s.address.isSome = true
      · exact Or.inl (by simp [barred, haddress])
      · refine Or.inr ?_
        cases o with
        | ok id =>
            -- the id of a `CmdRunner` is a number
            have hlaunch : launch cfg s (.ok id) = some s' := by
              simpa [step, start, haddress, hcmd] using hstep
            obtain ⟨s₁, hnew, -⟩ := Option.map_eq_some_iff.mp hlaunch
            obtain ⟨_, _, _, _, -, hid⟩ := newRunner_eq_some hnew
            simpa [permits, StartOutcome.named] using (hid hcmd).2.2
        | refused | noDir | noGroup | noRunner | noStart | noHandshake => rfl
  | connect | kill | body | goroutine | exit => exact Or.inr rfl

/-- What the safety of `Kill` rests on; a client that is attached in test mode is never killed. -/
structure Kept (cfg : LaunchConfig) (s : Client) : Prop where
  tracked : Tracked s
  sealed : cfg.mode ≠ .reattach true → Sealed cfg s
  piped : Piped cfg s

theorem kept_newClient (cfg : LaunchConfig) (others : List Nat) : Kept cfg (newClient cfg others) :=
  ⟨tracked_newClient cfg others, fun _ => by constructor <;> simp [newClient, Client.late],
    fun _ hrunner => absurd rfl hrunner⟩

theorem Kept.shared {cfg : LaunchConfig} {s : Client} (h : Kept cfg s) (managed : List Nat) :
    Kept cfg { s with managedClients := managed } where
  tracked := ⟨h.tracked.group, h.tracked.sound, h.tracked.address, h.tracked.runs⟩
  sealed hmode :=
    have hs := h.sealed hmode
    ⟨hs.gate, hs.once, hs.named, hs.waited, hs.cleared⟩
  piped := h.piped

theorem permits_shared (cfg : LaunchConfig) (s : Client) (managed : List Nat) (a : Act) :
    permits cfg { s with managedClients := managed } a = s.permits cfg a := by
  cases a <;> rfl

theorem Kept.step {cfg : LaunchConfig} {s s' : Client} {a : Act} (h : Kept cfg s)
    (hok : cfg.mode = .cmd ∨ s.permits cfg a = true) (hstep : step cfg s a = some s') :
    Kept cfg s' := by
  have hmove := move_of_step hstep
  refine ⟨h.tracked.move hmove, fun hmode => ?_, h.piped.move hmove⟩
  apply (h.sealed hmode).move h.tracked _ hmove
  rcases hok with hcmd | hpermits
  · exact (permits_of_cmd hcmd h.piped hstep).imp id fun hpermits => ⟨hmode, hpermits⟩
  · exact Or.inr ⟨hmode, hpermits⟩

/-- The body of `Kill` is past its wait.  Nothing of the client runs any more, or will. -/
theorem Sealed.ended {cfg : LaunchConfig} {s : Client} (h : Sealed cfg s) (htracked : Tracked s)
    (hlate : s.late = true) :
    s.barred cfg = true ∧ ∀ r ∈ s.runners, r.running = false := by
  refine ⟨h.once fun hidle => ?_, htracked.stopped (h.waited hlate)⟩
  simp [Client.late, hidle] at hlate

/-- Of the `Kill` calls, those from the `m`-th on come after something was launched. -/
structure Owes (m : Nat) (s : Client) : Prop where
  calls : m ≤ s.calls.length
  runners : s.runners ≠ []
  answered : ∀ t : Nat, m ≤ t → s.calls[t]? = some .returned → s.late = true

theorem Move.runners_ne_nil {cfg : LaunchConfig} {s s' : Client} {a : Act} (h : Move cfg s a s')
    (hne : s.runners ≠ []) : s'.runners ≠ [] := by
  cases h with
  | create hc =>
      rw [hc.runners]
      exact List.append_ne_nil_of_left_ne_nil hne _
  | goroutine hr =>
      apply List.ne_nil_of_length_pos
      rw [List.length_set]
      exact List.length_pos_of_ne_nil hne
  | _ => exact hne

theorem Move.length_calls {cfg : LaunchConfig} {s s' : Client} {a : Act} (h : Move cfg s a s') :
    s.calls.length ≤ s'.calls.length := by
  cases h with
  | create hc => exact Nat.le_of_eq (by rw [hc.calls])
  | kill => simp
  | gateNone | gateSome | pass | leave | finish => simp [Client.leave]
  | _ => exact Nat.le_refl _

theorem Owes.move {cfg : LaunchConfig} {m : Nat} {s s' : Client} {a : Act} (h : Owes m s)
    (hs : Sealed cfg s) (htracked : Tracked s) (hmove : Move cfg s a s') : Owes m s' := by
  refine ⟨Nat.le_trans h.calls hmove.length_calls, hmove.runners_ne_nil h.runners,
    fun t ht hret => ?_⟩
  have hkeep : s.late = true → s'.late = true := fun hlate =>
    (hmove.late (hs.ended htracked hlate).1 hlate).1
  have hold : s.calls[t]? = some .returned → s'.late = true := fun hret =>
    hkeep (h.answered t ht hret)
  cases hmove with
  | create hc =>
      rw [hc.calls] at hret
      exact hold hret
  | kill =>
      rcases getElem?_concat_cases hret with hret | ⟨-, hnew⟩
      · exact hold hret
      · cases hnew
  | gateNone hc hr =>
      rcases getElem?_set_cases hret with - | ⟨-, hret⟩
      · exact (hs.cleared hr).resolve_left h.runners
      · exact hold hret
  | gateSome hc hr =>
      rcases getElem?_set_cases hret with ⟨-, hnew⟩ | ⟨-, hret⟩
      · cases hnew
      · exact hold hret
  | pass hc ho =>
      rcases getElem?_set_cases hret with - | ⟨-, hret⟩
      · simp [Client.late, ho]
      · exact hold hret
  | leave | finish => rfl
  | _ => exact hold hret

/-- Only the end of the body takes a client off the list, and only that client. -/
theorem managed_of_step {cfg : LaunchConfig} {s s' : Client} {a : Act}
    (h : step cfg s a = some s') :
    s'.managedClients = s.managedClients ∨
      (s'.killOnce = .done ∧ s'.managedClients = s.managedClients.erase cfg.self) := by
  cases a with
  | start o =>
      cases next_of_start h with
      | stay => exact Or.inl rfl
      | made hmade => exact Or.inl hmade.managedClients
  | connect ok =>
      simp only [step] at h
      split at h <;> cases h
      exact Or.inl rfl
  | kill =>
      cases h
      exact Or.inl rfl
  | call t =>
      simp only [step, callStep] at h
      split at h
      · split at h <;> cases h <;> exact Or.inl rfl
      · split at h <;> cases h <;> exact Or.inl rfl
      · cases h
  | body ok =>
      simp only [step] at h
      split at h
      · cases next_of_body h with
        | leave hpc hmanaged =>
            rcases hmanaged with rfl | rfl
            · exact Or.inl rfl
            · exact Or.inr ⟨rfl, rfl⟩
        | advance => exact Or.inl rfl
      · cases h
  | goroutine n g =>
      simp only [step] at h
      split at h
      · obtain ⟨r', wg, pipes, exited, cancelled, rfl, -⟩ := next_of_goroutine h
        exact Or.inl rfl
      · cases h
  | exit n =>
      simp only [step] at h
      split at h <;> cases h
      exact Or.inl rfl

theorem Move.done {cfg : LaunchConfig} {s s' : Client} {a : Act} (h : Move cfg s a s')
    (hdone : s.killOnce = .done) : s'.killOnce = .done := by
  cases h with
  | create hc => rw [hc.killOnce, hdone]
  | win _ ho | count ho | advance ho | wait ho | tidy ho =>
      rw [hdone] at ho
      cases ho
  | leave | finish => rfl
  | _ => exact hdone

theorem Lively.shared {s : Client} (h : Lively s) (managed : List Nat) :
    Lively { s with managedClients := managed } :=
  ⟨h.pipes, h.runner, h.shaped, h.starting, h.gate, h.cancelled, h.body⟩

theorem Tracked.shared {s : Client} (h : Tracked s) (managed : List Nat) :
    Tracked { s with managedClients := managed } :=
  ⟨h.group, h.sound, h.address, h.runs⟩

end Client

namespace Host

/-- What is asked of the environment.  Nothing of clients with a command; of the others, that a
    `Kill` call that finds a runner finds an address, and that started runners have ids. -/
def permits (h : Host) : Act → Bool
  | .client i a => (h.clients[i]?).all fun p => p.1.mode == .cmd || p.2.permits p.1 a
  | _ => true

/-! ### The list -/

structure Listed (h : Host) : Prop where
  self : ∀ (i : Nat) cfg c, h.clients[i]? = some (cfg, c) → cfg.self = i
  nodup : h.managedClients.Nodup
  known : ∀ i ∈ h.managedClients, i < h.clients.length
  listed : ∀ (i : Nat) cfg c, h.clients[i]? = some (cfg, c) → cfg.managed = true →
    c.killOnce ≠ .done → i ∈ h.managedClients

theorem listed_init : Listed init := by
  constructor <;> simp [init]

theorem Listed.client {h : Host} {i : Nat} {a : Client.Act} {cfg : LaunchConfig} {c c' : Client}
    (hl : Listed h) (hi : h.clients[i]? = some (cfg, c))
    (hstep : Client.step cfg { c with managedClients := h.managedClients } a = some c')
    (cleanups : List CleanupPc) :
    Listed { h with
      clients := h.clients.set i (cfg, c')
      managedClients := c'.managedClients
      cleanups := cleanups } := by
  have hself := hl.self i cfg c hi
  have hmanaged := Client.managed_of_step hstep
  dsimp only at hmanaged
  have hsub : ∀ j ∈ c'.managedClients, j ∈ h.managedClients := by
    intro j hj
    rcases hmanaged with hsame | ⟨-, herase⟩
    · rwa [hsame] at hj
    · rw [herase] at hj
      exact List.mem_of_mem_erase hj
  refine ⟨fun j cfg₁ c₁ hj => ?_, ?_, fun j hj => ?_, fun j cfg₁ c₁ hj hm hdone => ?_⟩
  · rcases getElem?_set_cases hj with ⟨rfl, heq⟩ | ⟨-, hold⟩
    · cases heq
      exact hself
    · exact hl.self j cfg₁ c₁ hold
  · rcases hmanaged with hsame | ⟨-, herase⟩
    · exact hsame ▸ hl.nodup
    · exact herase ▸ hl.nodup.erase cfg.self
  · rw [List.length_set]
    exact hl.known j (hsub j hj)
  · rcases getElem?_set_cases hj with ⟨rfl, heq⟩ | ⟨hne, hold⟩
    · cases heq
      rcases hmanaged with hsame | ⟨hover, -⟩
      · rw [hsame]
        refine hl.listed i cfg c hi hm fun hd => hdone ?_
        exact (Client.move_of_step hstep).done hd
      · exact absurd hover hdone
    · have hmem := hl.listed j cfg₁ c₁ hold hm hdone
      rcases hmanaged with hsame | ⟨-, herase⟩
      · rwa [hsame]
      · rw [herase, hself]
        exact (List.mem_erase_of_ne (Ne.symm hne)).mpr hmem

theorem Listed.next {h h' : Host} {a : Act} (hl : Listed h) (hnext : Next h a h') :
    Listed h' := by
  cases hnext with
  | @newClient mode managed cfg hcfg =>
      have hfresh : h.clients.length ∉ h.managedClients := fun hmem =>
        Nat.lt_irrefl _ (hl.known _ hmem)
      subst hcfg
      refine ⟨fun j cfg₁ c₁ hj => ?_, ?_, fun j hj => ?_, fun j cfg₁ c₁ hj hm hdone => ?_⟩
      · rcases getElem?_concat_cases hj with hold | ⟨rfl, heq⟩
        · exact hl.self j cfg₁ c₁ hold
        · cases heq
          rfl
      · cases managed with
        | false => exact hl.nodup
        | true =>
            refine List.nodup_append.mpr ⟨hl.nodup, by simp, fun j hj m hm => ?_⟩
            rw [List.mem_singleton.mp hm]
            rintro rfl
            exact hfresh hj
      · rw [List.length_append, List.length_singleton]
        cases managed with
        | false => exact Nat.lt_succ_of_lt (hl.known j hj)
        | true =>
            rcases List.mem_append.mp hj with hold | hnew
            · exact Nat.lt_succ_of_lt (hl.known j hold)
            · rw [List.mem_singleton.mp hnew]
              exact Nat.lt_succ_self _
      · rcases getElem?_concat_cases hj with hold | ⟨rfl, heq⟩
        · have hmem := hl.listed j cfg₁ c₁ hold hm hdone
          cases managed with
          | false => exact hmem
          | true => exact List.mem_append_left _ hmem
        · cases heq
          dsimp only at hm
          subst hm
          exact List.mem_append_right _ (List.mem_singleton.mpr rfl)
  | client hi hstep => exact hl.client hi hstep h.cleanups
  | call hk hj hi hstep => exact hl.client hi hstep _
  | cleanup | snapshot | finish | done => exact ⟨hl.self, hl.nodup, hl.known, hl.listed⟩

/-! ### What `CleanupClients` leaves -/

/-- Every client is as the safety of `Kill` needs it. -/
def Kept (h : Host) : Prop :=
  ∀ (i : Nat) cfg c, h.clients[i]? = some (cfg, c) → Client.Kept cfg c

theorem Evolves.kept {h : Host} {i : Nat} {a : Act} {cfg : LaunchConfig} {c c' : Client}
    (hc : Evolves h i a cfg c c') (hkept : Client.Kept cfg c) (hi : h.clients[i]? = some (cfg, c))
    (hpermits : h.permits a = true) : Client.Kept cfg c' := by
  rcases hc with rfl | ⟨b, hb, hstep⟩
  · exact hkept
  · refine (hkept.shared h.managedClients).step ?_ hstep
    rw [Client.permits_shared]
    rcases hb with rfl | rfl
    · exact Or.inr rfl
    · simpa [permits, hi] using hpermits

theorem Kept.next {h h' : Host} {a : Act} (hk : Kept h) (hpermits : h.permits a = true)
    (hnext : Next h a h') : Kept h' := by
  intro i cfg c' hi
  rcases hnext.origin hi with ⟨c, hc, hevolves⟩ | ⟨-, rfl⟩
  · exact hevolves.kept (hk i cfg c hc) hc hpermits
  · exact Client.kept_newClient cfg h.managedClients

/-- How many of the goroutines have yet to call `wg.Done`. -/
def pending (killers : List (Nat × KillerPc)) : Nat := tally (fun p => p.2.member) killers

theorem pending_set {killers : List (Nat × KillerPc)} {j n : Nat} {pc : KillerPc}
    (hj : killers[j]? = some (n, pc)) (pc' : KillerPc) :
    pending (killers.set j (n, pc')) + pc.member = pending killers + pc'.member :=
  tally_set (fun p : Nat × KillerPc => p.2.member) (n, pc') hj

theorem member_le_pending {killers : List (Nat × KillerPc)} {j n : Nat} {pc : KillerPc}
    (hj : killers[j]? = some (n, pc)) : pc.member ≤ pending killers :=
  le_tally (fun p : Nat × KillerPc => p.2.member) hj

theorem pending_calling (l : List Nat) : pending (l.map fun i => (i, .calling)) = l.length := by
  induction l with
  | nil => rfl
  | cons i l ih =>
      simp only [pending, List.map_cons, tally_cons, KillerPc.member, List.length_cons] at ih ⊢
      omega

/-- What a goroutine of the call knows of its client, whose `Kill` calls from the `m`-th on are
    asked for after something was launched. -/
def Served (m : Nat) (c : Client) : KillerPc → Prop
  | .calling => True
  | .killing t => m ≤ t
  | .finished => c.late = true

theorem Served.mono {m : Nat} {c c' : Client} {pc : KillerPc} (h : Served m c pc)
    (hlate : c.late = true → c'.late = true) : Served m c' pc := by
  cases pc with
  | calling => trivial
  | killing t => exact h
  | finished => exact hlate h

/-- The `k`-th `CleanupClients` call is in charge of the `i`-th client. -/
structure InCharge (k i m : Nat) (h : Host) (c : Client) : Prop where
  present : k < h.cleanups.length
  entered : h.cleanups[k]? ≠ some .entering
  waits : ∀ wg killers, h.cleanups[k]? = some (.waiting wg killers) →
    wg = pending killers ∧ ∃ (j : Nat) (pc : KillerPc), killers[j]? = some (i, pc) ∧ Served m c pc
  done : h.cleanups[k]? = some .returned → c.late = true

theorem InCharge.mono {k i m : Nat} {h : Host} {c c' : Client} (hin : InCharge k i m h c)
    (hlate : c.late = true → c'.late = true) : InCharge k i m h c' := by
  refine ⟨hin.present, hin.entered, fun wg killers hk => ?_, fun hk => hlate (hin.done hk)⟩
  obtain ⟨hwg, j, pc, hj, hserved⟩ := hin.waits wg killers hk
  exact ⟨hwg, j, pc, hj, hserved.mono hlate⟩

/-- The call's own place changes, or another call's. -/
theorem InCharge.set {k i m : Nat} {h h' : Host} {c : Client} (hin : InCharge k i m h c) {k' : Nat}
    {pc : CleanupPc} (hcleanups : h'.cleanups = h.cleanups.set k' pc)
    (hentered : k' = k → pc ≠ .entering)
    (hwaits : k' = k → ∀ wg killers, pc = .waiting wg killers →
      wg = pending killers ∧ ∃ (j : Nat) (q : KillerPc), killers[j]? = some (i, q) ∧ Served m c q)
    (hover : k' = k → pc = .returned → c.late = true) : InCharge k i m h' c := by
  have hat : ∀ {q : CleanupPc}, h'.cleanups[k]? = some q →
      (k' = k ∧ q = pc) ∨ h.cleanups[k]? = some q := by
    intro q hq
    rw [hcleanups] at hq
    exact (getElem?_set_cases hq).imp id And.right
  refine ⟨?_, fun hk => ?_, fun wg killers hk => ?_, fun hk => ?_⟩
  · rw [hcleanups, List.length_set]
    exact hin.present
  · rcases hat hk with ⟨heq, hpc⟩ | hold
    · exact hentered heq hpc.symm
    · exact hin.entered hold
  · rcases hat hk with ⟨heq, hpc⟩ | hold
    · exact hwaits heq wg killers hpc.symm
    · exact hin.waits wg killers hold
  · rcases hat hk with ⟨heq, hpc⟩ | hold
    · exact hover heq hpc.symm
    · exact hin.done hold

theorem late_of_pending {m i j : Nat} {c : Client} {killers : List (Nat × KillerPc)} {pc : KillerPc}
    (hzero : pending killers = 0) (hj : killers[j]? = some (i, pc)) (hserved : Served m c pc) :
    c.late = true := by
  have hmember := tally_eq_zero.mp hzero (i, pc) (List.mem_of_getElem? hj)
  cases pc with
  | calling | killing => cases hmember
  | finished => exact hserved

/-- A goroutine goes on, from `pc` to `pc'`. -/
theorem InCharge.killer {k i m k' j wg wg' n : Nat} {h h' : Host} {c : Client}
    {killers : List (Nat × KillerPc)} {pc : KillerPc} (hin : InCharge k i m h c)
    (hk : h.cleanups[k']? = some (.waiting wg killers)) (hj : killers[j]? = some (n, pc))
    (pc' : KillerPc) (hwg : pc.member ≤ wg → wg' + pc.member = wg + pc'.member)
    (hserved : n = i → Served m c pc → Served m c pc')
    (hcleanups : h'.cleanups = h.cleanups.set k' (.waiting wg' (killers.set j (n, pc')))) :
    InCharge k i m h' c := by
  refine hin.set hcleanups (fun _ hpc => by cases hpc) (fun heq wg₁ killers₁ hpc => ?_)
    (fun _ hpc => by cases hpc)
  subst heq
  cases hpc
  obtain ⟨hpending, l, q, hl, hq⟩ := hin.waits _ _ hk
  constructor
  · have hset := pending_set hj pc'
    have hnew := hwg (hpending ▸ member_le_pending hj)
    omega
  · rcases getElem?_set_of_some hl j (n, pc') with ⟨rfl, hnew⟩ | ⟨-, hold⟩
    · cases hj.symm.trans hl
      exact ⟨j, pc', hnew, hserved rfl hq⟩
    · exact ⟨l, q, hold, hq⟩

theorem InCharge.next {k i m : Nat} {h h' : Host} {a : Act} {cfg : LaunchConfig} {c : Client}
    (hin : InCharge k i m h c) (hi : h.clients[i]? = some (cfg, c)) (howes : Client.Owes m c)
    (hnext : Next h a h') : InCharge k i m h' c := by
  cases hnext with
  | newClient | client => exact ⟨hin.present, hin.entered, hin.waits, hin.done⟩
  | cleanup =>
      have hat : ∀ {q : CleanupPc}, (h.cleanups ++ [.entering])[k]? = some q →
          h.cleanups[k]? = some q := by
        intro q hq
        rwa [List.getElem?_append_left hin.present] at hq
      refine ⟨?_, fun hk => hin.entered (hat hk),
        fun wg killers hk => hin.waits wg killers (hat hk), fun hk => hin.done (hat hk)⟩
      rw [List.length_append]
      exact Nat.lt_add_right 1 hin.present
  | snapshot hk =>
      have hother : ∀ {n : Nat}, h.cleanups[n]? = some .entering → n ≠ k := by
        rintro n hn rfl
        exact hin.entered hn
      exact hin.set rfl (fun heq => absurd heq (hother hk)) (fun heq => absurd heq (hother hk))
        (fun heq => absurd heq (hother hk))
  | call hk hj hm =>
      refine hin.killer hk hj (.killing _) (fun _ => rfl) (fun hsame _ => ?_) rfl
      subst hsame
      cases hi.symm.trans hm
      exact howes.calls
  | finish hk hj hm ht =>
      refine hin.killer hk hj .finished Nat.sub_add_cancel (fun hsame hserved => ?_) rfl
      subst hsame
      cases hi.symm.trans hm
      exact howes.answered _ hserved ht
  | done hk =>
      refine hin.set rfl (fun _ hpc => by cases hpc) (fun _ _ _ hpc => by cases hpc)
        (fun heq _ => ?_)
      subst heq
      obtain ⟨hwg, n, pc, hn, hserved⟩ := hin.waits _ _ hk
      exact late_of_pending hwg.symm hn hserved

theorem Evolves.late {h : Host} {i : Nat} {a : Act} {cfg : LaunchConfig} {c c' : Client}
    (hc : Evolves h i a cfg c c') (hkept : Client.Kept cfg c) (hmode : cfg.mode ≠ .reattach true)
    (hlate : c.late = true) : c'.late = true := by
  rcases hc with rfl | ⟨b, -, hstep⟩
  · exact hlate
  · have hbarred := ((hkept.sealed hmode).ended hkept.tracked hlate).1
    exact ((Client.move_of_step hstep).late hbarred hlate).1

theorem Evolves.owes {h : Host} {i m : Nat} {a : Act} {cfg : LaunchConfig} {c c' : Client}
    (hc : Evolves h i a cfg c c') (hkept : Client.Kept cfg c) (hmode : cfg.mode ≠ .reattach true)
    (howes : Client.Owes m c) : Client.Owes m c' := by
  rcases hc with rfl | ⟨b, -, hstep⟩
  · exact howes
  · have hshared := hkept.shared h.managedClients
    have howes' : Client.Owes m { c with managedClients := h.managedClients } :=
      ⟨howes.calls, howes.runners, howes.answered⟩
    exact howes'.move (hshared.sealed hmode) hshared.tracked (Client.move_of_step hstep)

/-- The `i`-th client has launched something, and the body of its `Kill` is past its wait or the
    `k`-th `CleanupClients` call sees to it. -/
def Doomed (k i m : Nat) (cfg : LaunchConfig) (h : Host) : Prop :=
  ∃ c, h.clients[i]? = some (cfg, c) ∧ Client.Kept cfg c ∧ Client.Owes m c ∧
    (c.late = true ∨ InCharge k i m h c)

theorem Doomed.next {k i m : Nat} {cfg : LaunchConfig} {h h' : Host} {a : Act}
    (hdoomed : Doomed k i m cfg h) (hmode : cfg.mode ≠ .reattach true)
    (hpermits : h.permits a = true) (hnext : Next h a h') : Doomed k i m cfg h' := by
  obtain ⟨c, hi, hkept, howes, hstate⟩ := hdoomed
  obtain ⟨c', hi', hevolves⟩ := hnext.evolves hi
  have hlate := hevolves.late hkept hmode
  exact ⟨c', hi', hevolves.kept hkept hi hpermits, hevolves.owes hkept hmode howes,
    hstate.imp hlate fun hin => (hin.next hi howes hnext).mono hlate⟩

theorem inCharge_snapshot {h : Host} {k i : Nat} {c : Client}
    (hk : h.cleanups[k]? = some .entering) (hi : i ∈ h.managedClients) :
    InCharge k i c.calls.length
      { h with
        cleanups := h.cleanups.set k
          (.waiting h.managedClients.length (h.managedClients.map fun i => (i, .calling))) } c := by
  have hlt := (List.getElem?_eq_some_iff.mp hk).1
  have hat := List.getElem?_set_self (a := CleanupPc.waiting h.managedClients.length
    (h.managedClients.map fun i => (i, .calling))) hlt
  refine ⟨by rwa [List.length_set], fun hk' => ?_, fun wg killers hk' => ?_, fun hk' => ?_⟩
  · cases hat.symm.trans hk'
  · cases hat.symm.trans hk'
    obtain ⟨j, hj⟩ := List.mem_iff_getElem?.mp hi
    exact ⟨(pending_calling _).symm, j, .calling, by rw [List.getElem?_map, hj]; rfl, trivial⟩
  · cases hat.symm.trans hk'

/-- **`CleanupClients` leaves no plugin behind,** provided that of clients without a command a `Kill`
    call that finds a runner finds an address, and that started runners have ids.  In every such
    run, with any number of clients and of `Start`, `Kill` and `CleanupClients` calls at once: when
    a `CleanupClients` call has returned, nothing runs any more of a managed client that had
    launched something before the call went over the list, whether the client was still on the list
    or not. -/
theorem cleanup_stops_managed (as bs : List Act) {h h₁ h' : Host} {k n : Nat}
    (hguard : Along step (fun h a => h.permits a = true) init as)
    (hrun : exec step init as = some h) (hsnapshot : step h (.snapshot k n) = some h₁)
    (hguard' : Along step (fun h a => h.permits a = true) h₁ bs)
    (hrun' : exec step h₁ bs = some h') (hreturned : h'.cleanups[k]? = some .returned) {i : Nat}
    {cfg : LaunchConfig} {c : Client} (hi : h.clients[i]? = some (cfg, c))
    (hmanaged : cfg.managed = true) (hmode : cfg.mode ≠ .reattach true)
    (hrunners : c.runners ≠ []) :
    ∃ c', h'.clients[i]? = some (cfg, c') ∧ ∀ r ∈ c'.runners, r.running = false := by
  have hstep : ∀ (g : Host) a g', Kept g ∧ Listed g → g.permits a = true → step g a = some g' →
      Kept g' ∧ Listed g' := by
    rintro g a g' ⟨hkept, hlisted⟩ hpermits hg
    exact ⟨hkept.next hpermits (next_of_step hg), hlisted.next (next_of_step hg)⟩
  have hinit : Kept init := by
    intro j cfg₁ c₁ hj
    cases hj
  obtain ⟨hkept, hlisted⟩ := exec_invariant hstep ⟨hinit, listed_init⟩ hguard hrun
  have hkeptc := hkept i cfg c hi
  have howes : Client.Owes c.calls.length c := by
    refine ⟨Nat.le_refl _, hrunners, fun t ht hret => ?_⟩
    rw [List.getElem?_eq_none ht] at hret
    cases hret
  have hdoomed : Doomed k i c.calls.length cfg h₁ := by
    cases next_of_step hsnapshot with
    | snapshot hk =>
        refine ⟨c, hi, hkeptc, howes, ?_⟩
        by_cases hdone : c.killOnce = .done
        · exact Or.inl (by simp [Client.late, hdone])
        · exact Or.inr (inCharge_snapshot hk (hlisted.listed i cfg c hi hmanaged hdone))
  obtain ⟨c', hi', hkept', -, hstate⟩ : Doomed k i c.calls.length cfg h' :=
    exec_invariant (fun g a g' hg hpermits hst => hg.next hmode hpermits (next_of_step hst))
      hdoomed hguard' hrun'
  refine ⟨c', hi', ((hkept'.sealed hmode).ended hkept'.tracked ?_).2⟩
  rcases hstate with hlate | hin
  · exact hlate
  · exact hin.done hreturned

/-- Two managed clients, one of them started, and a `CleanupClients` call. -/
def startedOne : List Act :=
  [.newClient .cmd true, .newClient .cmd true, .client 1 (.start (.ok [55])), .cleanup]

/-- The first client's `Kill` call finds nothing; the other one kills a plugin that does not
    close. -/
def cleanedUp : List Act :=
  [.killer 0 1, .killer 0 0] ++
    ([.call 0, .call 0, .body true, .body true, .body true, .body false, .body true, .body true,
      .exit 0, .goroutine 0 .stderr, .goroutine 0 .stderr, .goroutine 0 .stderr,
      .goroutine 0 (.scanner false), .goroutine 0 (.scanner false), .goroutine 0 (.scanner false),
      .goroutine 0 (.scanner false), .goroutine 0 .drainer, .goroutine 0 .drainer,
      .goroutine 0 .waiter, .goroutine 0 .waiter, .goroutine 0 .waiter, .goroutine 0 .waiter,
      .goroutine 0 .waiter, .goroutine 0 .waiter, .body true, .body true, .body true,
      .body true].map fun a => Act.client 1 a) ++
    [.client 0 (.call 0), .killer 0 1, .killer 0 0, .done 0]

theorem cleanup_stops_managed_one :
    ∃ h h₁ h', exec step init startedOne = some h ∧ step h (.snapshot 0 2) = some h₁ ∧
      exec step h₁ cleanedUp = some h' ∧ h'.cleanups = [.returned] ∧ h'.managedClients = [0] ∧
      ∃ c', h'.clients[1]? = some (⟨.cmd, true, 1⟩, c') ∧ ∀ r ∈ c'.runners, r.running = false := by
  refine ⟨_, _, _, rfl, rfl, rfl, rfl, rfl, ?_⟩
  exact cleanup_stops_managed startedOne cleanedUp (k := 0) (n := 2) (i := 1) (by decide) rfl rfl
    (by decide) rfl rfl rfl rfl (by decide) (by decide)

/-! ### `CleanupClients` returns -/

def stepsLeft (h : Host) : Nat :=
  tally (fun p => p.2.stepsLeft) h.clients + tally CleanupPc.stepsLeft h.cleanups

/-- The steps of the host's goroutines. -/
def Act.uses : Act → Nat
  | .client _ a => a.uses
  | .snapshot _ _ | .killer _ _ | .done _ => 1
  | .newClient _ _ | .cleanup => 0

/-- The steps that come of a new client, of a `CleanupClients` call and of each client it finds. -/
def Act.adds : Act → Nat
  | .newClient _ _ => 12
  | .client _ a => a.adds
  | .cleanup => 2
  | .snapshot _ n => 4 * n
  | .killer _ _ | .done _ => 0

theorem tally_calling (l : List Nat) :
    tally (fun p => p.2.stepsLeft) (l.map fun i => (i, KillerPc.calling)) = 4 * l.length := by
  induction l with
  | nil => rfl
  | cons i l ih =>
      rw [List.map_cons, tally_cons, ih, List.length_cons]
      simp only [KillerPc.stepsLeft]
      omega

theorem stepsLeft_setClient {h : Host} {i : Nat} {cfg : LaunchConfig} {c c' : Client}
    {a : Client.Act} (hi : h.clients[i]? = some (cfg, c))
    (hstep : Client.step cfg { c with managedClients := h.managedClients } a = some c') :
    tally (fun p => p.2.stepsLeft) (h.clients.set i (cfg, c')) + a.uses ≤
      tally (fun p => p.2.stepsLeft) h.clients + a.adds := by
  have hset := tally_set (fun p : LaunchConfig × Client => p.2.stepsLeft) (cfg, c') hi
  have hless := Client.stepsLeft_step hstep
  have hsame : ({ c with managedClients := h.managedClients } : Client).stepsLeft = c.stepsLeft :=
    rfl
  dsimp only at hset
  omega

theorem stepsLeft_setKiller {h : Host} {k j wg n : Nat} {killers : List (Nat × KillerPc)}
    {pc : KillerPc} (hk : h.cleanups[k]? = some (.waiting wg killers))
    (hj : killers[j]? = some (n, pc)) (wg' : Nat) (pc' : KillerPc) :
    tally CleanupPc.stepsLeft (h.cleanups.set k (.waiting wg' (killers.set j (n, pc')))) +
        pc.stepsLeft =
      tally CleanupPc.stepsLeft h.cleanups + pc'.stepsLeft := by
  have hset := tally_set CleanupPc.stepsLeft (.waiting wg' (killers.set j (n, pc'))) hk
  have hkiller := tally_set (fun p : Nat × KillerPc => p.2.stepsLeft) (n, pc') hj
  simp only [CleanupPc.stepsLeft] at hset
  dsimp only at hkiller
  omega

theorem stepsLeft_step {h h' : Host} {a : Act} (hstep : step h a = some h') :
    h'.stepsLeft + a.uses ≤ h.stepsLeft + a.adds := by
  cases next_of_step hstep with
  | newClient hcfg =>
      have hnew : (Client.newClient ‹_› h.managedClients).stepsLeft = 12 := rfl
      simp only [stepsLeft, tally_append, tally_cons, tally_nil, Act.uses, Act.adds, hnew]
      omega
  | client hi hst =>
      have hclient := stepsLeft_setClient hi hst
      simp only [stepsLeft, Act.uses, Act.adds]
      omega
  | cleanup =>
      simp only [stepsLeft, tally_append, tally_cons, tally_nil, Act.uses, Act.adds,
        CleanupPc.stepsLeft]
      omega
  | snapshot hk =>
      have hset := tally_set CleanupPc.stepsLeft (.waiting h.managedClients.length
        (h.managedClients.map fun i => (i, .calling))) hk
      simp only [CleanupPc.stepsLeft, tally_calling] at hset
      simp only [stepsLeft, Act.uses, Act.adds]
      omega
  | @call k j wg killers n cfg c c' hk hj hi hst =>
      have hclient := stepsLeft_setClient hi hst
      have hkiller := stepsLeft_setKiller hk hj wg (.killing c.calls.length)
      simp only [KillerPc.stepsLeft] at hkiller
      simp only [stepsLeft, Act.uses, Act.adds, Client.Act.uses, Client.Act.adds] at hclient ⊢
      omega
  | @finish k j wg killers n t cfg c hk hj =>
      have hkiller := stepsLeft_setKiller hk hj (wg - 1) .finished
      simp only [KillerPc.stepsLeft] at hkiller
      simp only [stepsLeft, Act.uses, Act.adds]
      omega
  | done hk =>
      have hset := tally_set CleanupPc.stepsLeft .returned hk
      simp only [CleanupPc.stepsLeft] at hset
      simp only [stepsLeft, Act.uses, Act.adds]
      omega

/-- What happens sooner or later if it can. -/
def due (h : Host) : Act → Bool
  | .client i a => (h.clients[i]?).all fun p => p.2.due a
  | .snapshot _ _ | .killer _ _ | .done _ => true
  | .newClient _ _ | .cleanup => false

def Resting (h : Host) : Prop := ∀ a, h.due a = true → step h a = none

/-- The calls' books: the wait group counts the goroutines that are left, and those in a `Kill`
    call are in one of their client's. -/
structure Booked (h : Host) : Prop where
  client : ∀ (i : Nat) cfg c, h.clients[i]? = some (cfg, c) → Client.Tracked c ∧ Client.Lively c
  group : ∀ (k wg : Nat) killers, h.cleanups[k]? = some (.waiting wg killers) →
    wg = pending killers
  calling : ∀ (k wg : Nat) killers, h.cleanups[k]? = some (.waiting wg killers) →
    ∀ p ∈ killers, ∃ cfg c, h.clients[p.1]? = some (cfg, c) ∧
      ∀ t, p.2 = .killing t → t < c.calls.length

theorem Evolves.length_calls {h : Host} {i : Nat} {a : Act} {cfg : LaunchConfig} {c c' : Client}
    (hc : Evolves h i a cfg c c') : c.calls.length ≤ c'.calls.length := by
  rcases hc with rfl | ⟨b, -, hstep⟩
  · exact Nat.le_refl _
  · exact (Client.move_of_step hstep).length_calls

theorem Booked.client_next {h h' : Host} {a : Act} (hb : Booked h) (hnext : Next h a h') {i : Nat}
    {cfg : LaunchConfig} {c' : Client} (hi : h'.clients[i]? = some (cfg, c')) :
    Client.Tracked c' ∧ Client.Lively c' := by
  rcases hnext.origin hi with ⟨c, hc, rfl | ⟨b, -, hstep⟩⟩ | ⟨-, rfl⟩
  · exact hb.client i cfg _ hc
  · obtain ⟨htracked, hlively⟩ := hb.client i cfg c hc
    exact Client.lively_step _ _ _ ⟨htracked.shared _, hlively.shared _⟩ hstep
  · exact ⟨Client.tracked_newClient cfg _, Client.lively_newClient cfg _⟩

/-- A goroutine's client is still there. -/
theorem Booked.calling_next {h h' : Host} {a : Act} (hb : Booked h) (hnext : Next h a h')
    {k wg : Nat} {killers : List (Nat × KillerPc)}
    (hk : h.cleanups[k]? = some (.waiting wg killers)) {p : Nat × KillerPc} (hp : p ∈ killers) :
    ∃ cfg c, h'.clients[p.1]? = some (cfg, c) ∧ ∀ t, p.2 = .killing t → t < c.calls.length := by
  obtain ⟨cfg, c, hc, ht⟩ := hb.calling k wg killers hk p hp
  obtain ⟨c', hc', hevolves⟩ := hnext.evolves hc
  exact ⟨cfg, c', hc', fun t hpc => Nat.lt_of_lt_of_le (ht t hpc) hevolves.length_calls⟩

theorem Booked.next {h h' : Host} {a : Act} (hb : Booked h) (hl : Listed h)
    (hnext : Next h a h') : Booked h' := by
  have hclient := @Booked.client_next h h' a hb hnext
  have hcalling := @Booked.calling_next h h' a hb hnext
  -- the goroutine that goes on has its client, and the others keep theirs
  have hkiller : ∀ {k j n wg : Nat} {killers : List (Nat × KillerPc)} {pc pc' : KillerPc},
      h.cleanups[k]? = some (.waiting wg killers) → killers[j]? = some (n, pc) →
      (∀ cfg c, h'.clients[n]? = some (cfg, c) → ∀ t, pc' = .killing t → t < c.calls.length) →
      ∀ p ∈ killers.set j (n, pc'), ∃ cfg c, h'.clients[p.1]? = some (cfg, c) ∧
        ∀ t, p.2 = .killing t → t < c.calls.length := by
    intro k j n wg killers pc pc' hk hj hnew p hp
    rcases List.mem_or_eq_of_mem_set hp with hold | rfl
    · exact hcalling hk hold
    · obtain ⟨cfg, c, hc, -⟩ := hcalling hk (List.mem_of_getElem? hj)
      exact ⟨cfg, c, hc, hnew cfg c hc⟩
  cases hnext with
  | newClient | client =>
      exact ⟨fun i cfg c => hclient, hb.group, fun k wg killers hk p hp => hcalling hk hp⟩
  | cleanup =>
      refine ⟨fun i cfg c => hclient, fun k wg killers hk => ?_, fun k wg killers hk p hp => ?_⟩
      · rcases getElem?_concat_cases hk with hk | ⟨-, heq⟩
        · exact hb.group k wg killers hk
        · cases heq
      · rcases getElem?_concat_cases hk with hk | ⟨-, heq⟩
        · exact hcalling hk hp
        · cases heq
  | snapshot hk₀ =>
      refine ⟨fun i cfg c => hclient, fun k wg killers hk => ?_, fun k wg killers hk p hp => ?_⟩
      · rcases getElem?_set_cases hk with ⟨-, heq⟩ | ⟨-, hk⟩
        · cases heq
          exact (pending_calling _).symm
        · exact hb.group k wg killers hk
      · rcases getElem?_set_cases hk with ⟨-, heq⟩ | ⟨-, hk⟩
        · cases heq
          obtain ⟨i, hi, rfl⟩ := List.mem_map.mp hp
          have hlt := hl.known i hi
          exact ⟨_, _, List.getElem?_eq_getElem hlt, fun t hpc => by cases hpc⟩
        · exact hcalling hk hp
  | @call k₀ j wg₀ killers₀ n cfg₀ c₀ c₀' hk₀ hj hi hst =>
      refine ⟨fun i cfg c => hclient, fun k wg killers hk => ?_, fun k wg killers hk p hp => ?_⟩
      · rcases getElem?_set_cases hk with ⟨-, heq⟩ | ⟨-, hk⟩
        · cases heq
          have hset := pending_set hj (.killing c₀.calls.length)
          have hgroup := hb.group k₀ wg₀ killers₀ hk₀
          simp only [KillerPc.member] at hset
          omega
        · exact hb.group k wg killers hk
      · rcases getElem?_set_cases hk with ⟨-, heq⟩ | ⟨-, hk⟩
        · cases heq
          refine hkiller hk₀ hj (fun cfg c hc t hpc => ?_) p hp
          -- the `Kill` call is the client's last one
          cases hpc
          rw [List.getElem?_set_self (List.getElem?_eq_some_iff.mp hi).1] at hc
          cases hc
          cases hst
          simp
        · exact hcalling hk hp
  | @finish k₀ j wg₀ killers₀ n t₀ cfg₀ c₀ hk₀ hj hi ht =>
      refine ⟨fun i cfg c => hclient, fun k wg killers hk => ?_, fun k wg killers hk p hp => ?_⟩
      · rcases getElem?_set_cases hk with ⟨-, heq⟩ | ⟨-, hk⟩
        · cases heq
          have hset := pending_set hj .finished
          have hgroup := hb.group k₀ wg₀ killers₀ hk₀
          simp only [KillerPc.member] at hset
          omega
        · exact hb.group k wg killers hk
      · rcases getElem?_set_cases hk with ⟨-, heq⟩ | ⟨-, hk⟩
        · cases heq
          exact hkiller hk₀ hj (fun _ _ _ t hpc => by cases hpc) p hp
        · exact hcalling hk hp
  | done hk₀ =>
      refine ⟨fun i cfg c => hclient, fun k wg killers hk => ?_, fun k wg killers hk p hp => ?_⟩
      · rcases getElem?_set_cases hk with ⟨-, heq⟩ | ⟨-, hk⟩
        · cases heq
        · exact hb.group k wg killers hk
      · rcases getElem?_set_cases hk with ⟨-, heq⟩ | ⟨-, hk⟩
        · cases heq
        · exact hcalling hk hp

section Resting

variable {h : Host} (hrest : Resting h)

include hrest

end Resting

end Host

end GoPlugin
