import GoPlugin.GRPCBrokerPending

/-!
# In which order the gRPC broker hands out messages

Messages for an id go into the entry that the table has for it.  Entries are removed and made
anew, and a call may still wait on one that the table has forgotten; but `Run` routes one message
after the other and looks up the entry for each, and a lookup never returns an older cell than
one that exists.  So with messages that carry growing numbers, cells of one id hold smaller
numbers the older they are, and the calls that receive from one cell receive growing numbers.
-/

namespace GoPlugin

namespace GRPCBroker

open Tally PendingTable LabelledSystem

/-! ### Where messages are -/

/-- The entry that a call has received from, and what it received. -/
def CallPc.letter : CallPc → Option (Nat × Letter)
  | .took p m | .used p m | .acked p m => some (p, m)
  | .fetching | .waiting _ | .expired _ | .refused _ _ | .timedOut | .sendFailed => none

/-- The message that `Run` has in hand. -/
def RunPc.letter : RunPc → Option Letter
  | .routing m | .offering m _ => some m
  | .receiving | .spawning _ _ | .stopped => none

/-- A call has received `m` from cell `p`. -/
def Taken (b : GRPCBroker) (p : Nat) (m : Letter) : Prop :=
  ∃ (i : Nat) (c : Call), b.calls[i]? = some c ∧ c.pc.letter = some (p, m)

/-- The message `m` has been put into cell `p`, and is there or has been received. -/
def Placed (b : GRPCBroker) (p : Nat) (m : Letter) : Prop :=
  b.clientStreams.ch p = some m ∨ b.Taken p m

theorem CallPc.entry_of_letter {pc : CallPc} {p : Nat} {m : Letter}
    (h : pc.letter = some (p, m)) : pc.entry = some p := by
  cases pc <;> cases h <;> rfl

/-! ### What one step does to them -/

section Steps

variable {b b' : GRPCBroker} {a : Act}

/-- The action queues `m` in cell `p`. -/
def Queues (b : GRPCBroker) (a : Act) (p : Nat) (m : Letter) : Prop :=
  a = .run .offer ∧ b.run = .offering m p ∧ m.info.serverKnock = false

theorem Move.ch_cases (h : Move b a b') {p : Nat} {m : Letter}
    (hp : b'.clientStreams.ch p = some m) :
    b.clientStreams.ch p = some m ∨ Queues b a p m := by
  cases h with
  | run h =>
      cases h with
      | lookupClient =>
          rw [ch_fetch] at hp
          exact Or.inl hp
      | queueClient hrun hrole hch =>
          rw [ch_put] at hp
          split at hp
          · next heq =>
              cases hp
              exact Or.inr ⟨rfl, heq.1 ▸ hrun, hrole⟩
          · exact Or.inl hp
      | _ => exact Or.inl hp
  | caller h => exact Or.inl (h.ch hp)
  | accepter h =>
      rw [h.client_eq.1] at hp
      exact Or.inl hp

/-- A call that has received a message in the state after the move had it before, or it has
    just taken it. -/
theorem Move.letter_cases (h : Move b a b') {i : Nat} {c : Call} {p : Nat} {m : Letter}
    (hc : b'.calls[i]? = some c) (hl : c.pc.letter = some (p, m)) :
    (∃ c₀, b.calls[i]? = some c₀ ∧ c₀.pc.letter = some (p, m) ∧ c₀.id = c.id) ∨
      (b.calls[i]? = some ⟨c.kind, c.id, .waiting p⟩ ∧ b.clientStreams.ch p = some m ∧
        b'.clientStreams.ch p = none) := by
  rcases h.callsNext.cases hc with hold | ⟨x, c₀, rfl, hold, hstep⟩ | ⟨-, hnew⟩
  · exact Or.inl ⟨c, hold, hl, rfl⟩
  · cases hstep with
    | recv hch =>
        cases hl
        refine Or.inr ⟨hold, hch, ?_⟩
        cases h.of_call with
        | recv hcall =>
            cases hcall.symm.trans hold
            rw [ch_take, if_pos rfl]
    | used | acked => exact Or.inl ⟨_, hold, hl, rfl⟩
    | fetch | refused | expire | reap => cases hl
  · cases hnew <;> cases hl

theorem Move.placed_cases (h : Move b a b') {p : Nat} {m : Letter} (hp : b'.Placed p m) :
    b.Placed p m ∨ Queues b a p m := by
  rcases hp with hch | ⟨i, c, hc, hl⟩
  · exact (h.ch_cases hch).imp Or.inl id
  · rcases h.letter_cases hc hl with ⟨c₀, hc₀, hl₀, -⟩ | ⟨-, hch, -⟩
    · exact Or.inl (Or.inr ⟨i, c₀, hc₀, hl₀⟩)
    · exact Or.inl (Or.inl hch)

/-- `Run` gets a message in hand by receiving it. -/
theorem Move.letter_run (h : Move b a b') {m : Letter} (hm : b'.run.letter = some m) :
    b.run.letter = some m ∨ a = .run (.recv m) := by
  cases h with
  | run h =>
      cases h with
      | recv =>
          cases hm
          exact Or.inr rfl
      | lookupServer hrun | lookupClient hrun =>
          rw [hrun]
          exact Or.inl hm
      | _ => cases hm
  | caller h =>
      rw [h.run_eq] at hm
      exact Or.inl hm
  | accepter h =>
      rw [h.client_eq.2.1] at hm
      exact Or.inl hm

/-- The message is with the loop, in a cell or with a call. -/
def Has (b : GRPCBroker) (m : Letter) : Prop :=
  b.run.letter = some m ∨ ∃ p, b.Placed p m

theorem Move.has_cases (h : Move b a b') {m : Letter} (hm : b'.Has m) :
    b.Has m ∨ a = .run (.recv m) := by
  rcases hm with hrun | ⟨p, hp⟩
  · exact (h.letter_run hrun).imp Or.inl id
  · rcases h.placed_cases hp with hold | ⟨-, hrun, -⟩
    · exact Or.inl (Or.inr ⟨p, hold⟩)
    · exact Or.inl (Or.inl (by rw [hrun]; rfl))

theorem Move.newest (h : Move b a b') (hnew : b.clientStreams.Newest) :
    b'.clientStreams.Newest := by
  cases h with
  | run h =>
      cases h with
      | lookupClient => exact hnew.fetch _
      | queueClient => exact hnew.put _ _
      | _ => exact hnew
  | caller h =>
      cases h with
      | dial | fetch => exact hnew.fetch _
      | recv => exact hnew.take _
      | closeDone => exact hnew.closeDone _
      | reap | clean => exact hnew.erase _
      | _ => exact hnew
  | accepter h =>
      rw [h.client_eq.1]
      exact hnew

end Steps

/-! ### The order -/

/-- The messages for one id, in the order of their numbers. -/
structure Ordered (b : GRPCBroker) : Prop where
  newest : b.clientStreams.Newest
  named : ∀ (i : Nat) c p m, b.calls[i]? = some c → c.pc.letter = some (p, m) →
    m.info.serviceId = c.id
  run : ∀ m, b.run.letter = some m → ∀ p m', b.Placed p m' → m'.origin < m.origin
  offer : ∀ m p, b.run = .offering m p → m.info.serverKnock = false → ∀ q m', b.Placed q m' →
    m'.info.serviceId = m.info.serviceId → q ≤ p
  cells : ∀ p q m m', b.Placed p m → b.Placed q m' → m.info.serviceId = m'.info.serviceId →
    p < q → m.origin < m'.origin
  slot : ∀ p m m', b.clientStreams.ch p = some m' → b.Taken p m → m.origin < m'.origin

theorem ordered_init : Ordered init := by
  constructor
  case newest => exact newest_empty
  all_goals simp [init, RunPc.letter, Placed, Taken, PendingTable.ch, PendingTable.empty]

/-- A placed message is in a cell of its id. -/
theorem Ordered.keyOf {b : GRPCBroker} (h : Ordered b) (hkey : Keyed b) {p : Nat} {m : Letter}
    (hp : b.Placed p m) : b.clientStreams.keyOf p = some m.info.serviceId := by
  rcases hp with hch | ⟨i, c, hc, hl⟩
  · exact hkey.queued p m hch
  · rw [h.named i c p m hc hl]
    exact hkey.calls i c p hc (CallPc.entry_of_letter hl)

/-- A step that receives nothing, or something with a number above all others. -/
def Numbered (b : GRPCBroker) (a : Act) : Prop :=
  ∀ m, a = .run (.recv m) → ∀ p m', b.Placed p m' → m'.origin < m.origin

theorem Ordered.offer_move {b b' : GRPCBroker} {a : Act} (h : Ordered b) (hkey : Keyed b)
    (hmove : Move b a b') {m : Letter} {p : Nat} (hrun : b'.run = .offering m p)
    (hrole : m.info.serverKnock = false) {q : Nat} {m' : Letter} (hq : b.Placed q m')
    (hid : m'.info.serviceId = m.info.serviceId) : q ≤ p := by
  have hkeyOf := h.keyOf hkey hq
  rw [hid] at hkeyOf
  cases hmove with
  | run hr =>
      cases hr with
      | lookupClient =>
          cases hrun
          exact h.newest.le_slot hkeyOf
      | lookupServer _ hserver =>
          cases hrun
          rw [hrole] at hserver
          cases hserver
      | recv | queueServer | queueClient | dropServer | dropClient | spawn | stop => cases hrun
  | caller hc =>
      rw [hc.run_eq] at hrun
      exact h.offer m p hrun hrole q m' hq hid
  | accepter hac =>
      rw [hac.client_eq.2.1] at hrun
      exact h.offer m p hrun hrole q m' hq hid

theorem Ordered.move {b b' : GRPCBroker} {a : Act} (h : Ordered b) (hkey : Keyed b)
    (hnum : Numbered b a) (hmove : Move b a b') : Ordered b' := by
  -- a message that is queued has a greater number than all that were placed before
  have hqueue : ∀ {p m q m'}, Queues b a p m → b.Placed q m' → m'.origin < m.origin := by
    rintro p m q m' ⟨-, hrun, -⟩ hq
    exact h.run m (by rw [hrun]; rfl) q m' hq
  -- and it is the last one that the loop had in hand
  have hidle : ∀ {p m}, Queues b a p m → b'.run.letter = none := by
    rintro p m ⟨rfl, hrun, hrole⟩
    cases hmove.of_run <;> rfl
  constructor
  · exact hmove.newest h.newest
  · intro i c p m hc hl
    rcases hmove.letter_cases hc hl with ⟨c₀, hc₀, hl₀, hid⟩ | ⟨hc₀, hch, -⟩
    · rw [← hid]
      exact h.named i c₀ p m hc₀ hl₀
    · have hcall := hkey.calls i _ p hc₀ rfl
      rw [hkey.queued p m hch] at hcall
      exact Option.some.inj hcall
  · intro m hm p m' hp
    rcases hmove.placed_cases hp with hold | hnew
    · rcases hmove.letter_run hm with hm₀ | rfl
      · exact h.run m hm₀ p m' hold
      · exact hnum m rfl p m' hold
    · rw [hidle hnew] at hm
      cases hm
  · intro m p hrun hrole q m' hq hid
    rcases hmove.placed_cases hq with hold | hnew
    · exact h.offer_move hkey hmove hrun hrole hold hid
    · have hnone := hidle hnew
      rw [hrun] at hnone
      cases hnone
  · intro p q m m' hp hq hid hlt
    rcases hmove.placed_cases hp with hp₀ | hp₁
    · rcases hmove.placed_cases hq with hq₀ | hq₁
      · exact h.cells p q m m' hp₀ hq₀ hid hlt
      · exact hqueue hq₁ hp₀
    · rcases hmove.placed_cases hq with hq₀ | hq₁
      · -- the loop queues nothing in a cell that is older than another one in use
        have hle := h.offer m p hp₁.2.1 hp₁.2.2 q m' hq₀ hid.symm
        omega
      · cases hp₁.2.1.symm.trans hq₁.2.1
        omega
  · rintro p m m' hch ⟨i, c, hc, hl⟩
    rcases hmove.letter_cases hc hl with ⟨c₀, hc₀, hl₀, -⟩ | ⟨-, -, hnone⟩
    · rcases hmove.ch_cases hch with hch₀ | hnew
      · exact h.slot p m m' hch₀ ⟨i, c₀, hc₀, hl₀⟩
      · exact hqueue hnew (Or.inr ⟨i, c₀, hc₀, hl₀⟩)
    · rw [hnone] at hch
      cases hch

/-! ### No message is received twice -/

/-- What two calls have received has different numbers. -/
def Distinct (b : GRPCBroker) : Prop :=
  ∀ (i j : Nat) c c' p q m m', i ≠ j → b.calls[i]? = some c → b.calls[j]? = some c' →
    c.pc.letter = some (p, m) → c'.pc.letter = some (q, m') → m.origin ≠ m'.origin

theorem distinct_init : Distinct init := by
  intro i j c c' p q m m' _ hc
  simp [init] at hc

/-- What is in a slot has another number than what has been received. -/
theorem Ordered.ne_of_slot {b : GRPCBroker} (h : Ordered b)
    (hsame : ∀ p q m m', b.Placed p m → b.Placed q m' → m.origin = m'.origin → m.info = m'.info)
    {p q : Nat} {m m' : Letter} (hch : b.clientStreams.ch p = some m) (hq : b.Taken q m') :
    m.origin ≠ m'.origin := by
  intro heq
  have hid := congrArg ConnInfo.serviceId (hsame p q m m' (Or.inl hch) (Or.inr hq) heq)
  rcases Nat.lt_trichotomy p q with hlt | rfl | hlt
  · exact absurd heq (Nat.ne_of_lt (h.cells p q m m' (Or.inl hch) (Or.inr hq) hid hlt))
  · exact absurd heq (Nat.ne_of_gt (h.slot p m' m hch hq))
  · exact absurd heq (Nat.ne_of_gt (h.cells q p m' m (Or.inr hq) (Or.inl hch) hid.symm hlt))

theorem Distinct.move {b b' : GRPCBroker} {a : Act} (h : Distinct b) (hord : Ordered b)
    (hsame : ∀ p q m m', b.Placed p m → b.Placed q m' → m.origin = m'.origin → m.info = m'.info)
    (hmove : Move b a b') : Distinct b' := by
  intro i j c c' p q m m' hij hi hj hl hl'
  rcases hmove.letter_cases hi hl with ⟨c₀, hi₀, hl₀, -⟩ | ⟨hwait, hch, -⟩
  · rcases hmove.letter_cases hj hl' with ⟨c₁, hj₁, hl₁, -⟩ | ⟨-, hch, -⟩
    · exact h i j c₀ c₁ p q m m' hij hi₀ hj₁ hl₀ hl₁
    · exact (hord.ne_of_slot hsame hch ⟨i, c₀, hi₀, hl₀⟩).symm
  · rcases hmove.letter_cases hj hl' with ⟨c₁, hj₁, hl₁, -⟩ | ⟨hwait', hch', -⟩
    · exact hord.ne_of_slot hsame hch ⟨j, c₁, hj₁, hl₁⟩
    · -- one step does not move two calls
      rcases hmove.callsNext.cases hi with hold | ⟨x, _, rfl, -, -⟩ | ⟨hnew, -⟩
      · rw [← Option.some.inj (hwait.symm.trans hold)] at hl
        cases hl
      · rcases hmove.callsNext.cases hj with hold | ⟨_, _, ha, -, -⟩ | ⟨-, hnew⟩
        · rw [← Option.some.inj (hwait'.symm.trans hold)] at hl'
          cases hl'
        · cases ha
          exact absurd rfl hij
        · cases hnew
      · rw [hnew, List.getElem?_eq_none (Nat.le_refl _)] at hwait
        cases hwait

/-! ### Later calls receive later messages -/

/-- A call has its entry from before the move, or the lookup for its id returned it. -/
theorem CallsNext.entry_cases {b b' : GRPCBroker} {a : Act} (h : CallsNext b b' a) {i : Nat}
    {c : Call} (hc : b'.calls[i]? = some c) {q : Nat} (hq : c.pc.entry = some q) :
    (∃ c₀, b.calls[i]? = some c₀ ∧ c₀.id = c.id ∧ c₀.pc.entry = some q) ∨
      q = b.clientStreams.slot c.id := by
  rcases h.cases hc with hold | ⟨x, c₀, -, hold, hstep⟩ | ⟨-, hnew⟩
  · exact Or.inl ⟨c, hold, rfl, hq⟩
  · cases hstep with
    | fetch =>
        cases hq
        exact Or.inr rfl
    | reap => cases hq
    | recv | used | acked | refused | expire => exact Or.inl ⟨_, hold, rfl, hq⟩
  · cases hnew with
    | dial =>
        cases hq
        exact Or.inr rfl
    | knock | knockFail => cases hq

/-- A `Dial` call has received `m` from cell `p`, and the calls for the same id from the `n`-th
    on use cells that are not older, and receive greater numbers. -/
structure Since (b : GRPCBroker) (n p : Nat) (m : Letter) : Prop where
  taken : ∃ (i : Nat) (c : Call), b.calls[i]? = some c ∧ c.kind = .dial ∧
    c.pc.letter = some (p, m)
  entry : ∀ (j : Nat) c q, n ≤ j → b.calls[j]? = some c → c.id = m.info.serviceId →
    c.pc.entry = some q → p ≤ q
  letter : ∀ (j : Nat) c q m', n ≤ j → b.calls[j]? = some c → c.id = m.info.serviceId →
    c.pc.letter = some (q, m') → m.origin < m'.origin

/-- A `Dial` call keeps what it has received. -/
theorem CallsNext.dial_letter {b b' : GRPCBroker} {a : Act} (h : CallsNext b b' a) {i : Nat}
    {c : Call} {x : Nat × Letter} (hc : b.calls[i]? = some c) (hkind : c.kind = .dial)
    (hl : c.pc.letter = some x) :
    ∃ c', b'.calls[i]? = some c' ∧ c'.kind = .dial ∧ c'.pc.letter = some x := by
  rcases h.next hc with hold | ⟨_, c', hc', hstep⟩
  · exact ⟨c, hold, hkind, hl⟩
  · refine ⟨c', hc', hstep.kind_id.1.trans hkind, ?_⟩
    cases hstep with
    | used => exact hl
    | acked | refused => cases hkind
    | fetch | recv | expire | reap => cases hl

theorem Since.move {b b' : GRPCBroker} {a : Act} {n p : Nat} {m : Letter} (h : Since b n p m)
    (hkey : Keyed b) (hord : Ordered b) (hmove : Move b a b') : Since b' n p m := by
  obtain ⟨i, c, hc, hkind, hl⟩ := h.taken
  have htaken : b.Taken p m := ⟨i, c, hc, hl⟩
  have hnext := hmove.callsNext
  constructor
  · obtain ⟨c', hc', hkind', hl'⟩ := hnext.dial_letter hc hkind hl
    exact ⟨i, c', hc', hkind', hl'⟩
  · intro j c' q hj hc' hid hq
    rcases hnext.entry_cases hc' hq with ⟨c₀, hc₀, hid₀, hq₀⟩ | rfl
    · exact h.entry j c₀ q hj hc₀ (hid₀.trans hid) hq₀
    · rw [hid]
      exact hord.newest.le_slot (hord.keyOf hkey (Or.inr htaken))
  · intro j c' q m' hj hc' hid hl'
    rcases hmove.letter_cases hc' hl' with ⟨c₀, hc₀, hl₀, hid₀⟩ | ⟨hc₀, hch, -⟩
    · exact h.letter j c₀ q m' hj hc₀ (hid₀.trans hid) hl₀
    · -- what it takes lies in a cell that is not older than `p`
      have hle := h.entry j _ q hj hc₀ hid rfl
      have hid' : m.info.serviceId = m'.info.serviceId := by
        have hkeyOf := hkey.calls j _ q hc₀ rfl
        rw [hkey.queued q m' hch] at hkeyOf
        exact hid.symm.trans (Option.some.inj hkeyOf).symm
      rcases Nat.lt_or_eq_of_le hle with hlt | rfl
      · exact hord.cells p q m m' (Or.inr htaken) (Or.inl hch) hid' hlt
      · exact hord.slot p m m' hch htaken

end GRPCBroker

end GoPlugin
