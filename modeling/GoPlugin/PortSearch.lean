import GoPlugin.Config
import GoPlugin.ServerListener

/-!
# The search for a TCP port (`serverListenerTCP`)

`PLUGIN_MIN_PORT` and `PLUGIN_MAX_PORT` give a range of ports, and the plugin listens on the first
one that it can bind.  Nothing treats port 0 apart, which asks the operating system for any port.
-/

namespace GoPlugin

open ByteString Environ

/-! ### Listening -/

/-- The ports of the loopback interface: which ones can be bound, and the one that `Listen` on port
    0 takes of them. -/
structure Ports where
  free : Nat → Bool
  pick : Option Nat
  picked : ∀ p, pick = some p → 1 ≤ p ∧ p ≤ 65535 ∧ free p = true
  exhausted : pick = none → ∀ p, 1 ≤ p → p ≤ 65535 → free p = false

namespace Ports

/-- The port can be bound. -/
def Bindable (ports : Ports) (p : Nat) : Prop := 1 ≤ p ∧ p ≤ 65535 ∧ ports.free p = true

/-- `net.Listen` for a port; the result is the port of the listener. -/
def listenOn (ports : Ports) (port : Int) : Option Nat :=
  if port = 0 then ports.pick
  else if 1 ≤ port ∧ port ≤ 65535 ∧ ports.free port.toNat = true then some port.toNat
  else none

/-- The separator of host and port. -/
def colon : UInt8 := 58

/-- The port of an address. -/
def portOf (address : ByteString) : Option Int64 :=
  ((split colon address).getLast?).bind atoi

/-- `net.Listen("tcp", address)`, for an address of the loopback interface. -/
def listen (ports : Ports) (address : ByteString) : Option Nat :=
  (portOf address).bind fun port => ports.listenOn port.toInt

/-! ### The search -/

inductive PortError where
  | parse (key value : ByteString)
  | range (minPort maxPort : Int64)
  | unbound
deriving DecidableEq, Repr

/-- The value of one of the variables; `strconv.ParseInt(value, 10, 32)` where it is set. -/
def portValue (value : ByteString) : Option Int64 :=
  if value.length = 0 then some 0 else parseInt 32 value

def readPort (key value : ByteString) : Except PortError Int64 :=
  match portValue value with
  | some port => .ok port
  | none => .error (.parse key value)

def address (port : Int64) : ByteString := ascii "127.0.0.1:" ++ itoa port

/-- The loop, with `port` as its variable; there is a result where it ends. -/
def bindFrom (ports : Ports) (maxPort : Int64) : Nat → Int64 → Option (Except PortError Nat)
  | 0, _ => none
  | fuel + 1, port =>
      if port ≤ maxPort then
        match ports.listen (address port) with
        | some p => some (.ok p)
        | none => bindFrom ports maxPort fuel (port + 1)
      else some (.error .unbound)

/-- `serverListenerTCP`, for the values of the two variables. -/
def serverListenerTCP (ports : Ports) (envMin envMax : ByteString) (fuel : Nat) :
    Option (Except PortError Nat) :=
  match readPort envMinPort envMin with
  | .error e => some (.error e)
  | .ok minPort =>
      match readPort envMaxPort envMax with
      | .error e => some (.error e)
      | .ok maxPort =>
          if maxPort < minPort then some (.error (.range minPort maxPort))
          else ports.bindFrom maxPort fuel minPort

/-! ### What the loop finds -/

variable {ports : Ports}

theorem portOf_address (port : Int64) : portOf (address port) = some port := by
  have hcolon : colon ∉ itoa port := by
    intro hmem
    rcases mem_itoa hmem with heq | ⟨-, hle⟩
    · cases heq
    · revert hle
      decide
  have hsplit : split colon (address port) = [ascii "127.0.0.1", itoa port] := by
    have hhost : address port = ascii "127.0.0.1" ++ colon :: itoa port := rfl
    rw [hhost, split_append_cons, split_of_notMem hcolon, split_of_notMem (by decide)]
    rfl
  rw [portOf, hsplit]
  exact atoi_itoa port

theorem listen_address (port : Int64) :
    ports.listen (address port) = ports.listenOn port.toInt := by
  rw [listen, portOf_address, Option.bind_some]

theorem listenOn_zero : ports.listenOn 0 = ports.pick := if_pos rfl

/-- Any other port is bound, or the call fails. -/
theorem listenOn_of_ne (ports : Ports) {port : Int} (hne : port ≠ 0) :
    (∃ p : Nat, port = p ∧ ports.Bindable p ∧ ports.listenOn port = some p) ∨
      (ports.listenOn port = none ∧ ∀ p : Nat, port = p → ¬ports.Bindable p) := by
  unfold listenOn
  rw [if_neg hne]
  split
  · next h =>
      obtain ⟨hlow, hhigh, hfree⟩ := h
      exact Or.inl ⟨port.toNat, by omega, ⟨by omega, by omega, hfree⟩, rfl⟩
  · next h =>
      refine Or.inr ⟨rfl, ?_⟩
      rintro p rfl ⟨hlow, hhigh, hfree⟩
      exact h ⟨by omega, by omega, hfree⟩

theorem not_bindable_of_listenOn {p : Nat} (hp : 1 ≤ p) (h : ports.listenOn p = none) :
    ¬ports.Bindable p := by
  have hne : (p : Int) ≠ 0 := by omega
  rcases ports.listenOn_of_ne hne with ⟨q, -, -, hsome⟩ | ⟨-, hnot⟩
  · cases h.symm.trans hsome
  · exact hnot p rfl

/-- How a search through the ports from `lo` to `hi` ends. -/
inductive Searched (ports : Ports) (lo hi : Int) : Except PortError Nat → Prop where
  | found {port : Int} {p : Nat} (hlo : lo ≤ port) (hhi : port ≤ hi)
      (hbefore : ∀ q, lo ≤ q → q < port → ports.listenOn q = none)
      (hport : ports.listenOn port = some p) : Searched ports lo hi (.ok p)
  | unbound (h : ∀ q, lo ≤ q → q ≤ hi → ports.listenOn q = none) :
      Searched ports lo hi (.error .unbound)

/-- A port that failed can be left out at the start. -/
theorem Searched.cons {lo hi : Int} {r : Except PortError Nat}
    (hlo : ports.listenOn lo = none) (h : Searched ports (lo + 1) hi r) :
    Searched ports lo hi r := by
  have hsplit : ∀ {q}, lo ≤ q → q = lo ∨ lo + 1 ≤ q := by omega
  cases h with
  | found hle hhi hbefore hport =>
      refine .found (by omega) hhi ?_ hport
      intro q hq hlt
      rcases hsplit hq with rfl | hq
      · exact hlo
      · exact hbefore q hq hlt
  | unbound h =>
      refine .unbound ?_
      intro q hq hle
      rcases hsplit hq with rfl | hq
      · exact hlo
      · exact h q hq hle

/-- The variable of the loop does not overflow below a bound of 32 bits. -/
theorem toInt_add_one {port maxPort : Int64} (hle : port ≤ maxPort)
    (hmax : maxPort.toInt < 2147483648) : (port + 1).toInt = port.toInt + 1 := by
  have hport := Int64.le_iff_toInt_le.mp hle
  have hlow := port.le_toInt
  rw [Int64.toInt_add, show (1 : Int64).toInt = 1 from rfl]
  exact Int.bmod_eq_of_le (by omega) (by omega)

theorem searched_bindFrom (ports : Ports) {maxPort : Int64} (hmax : maxPort.toInt < 2147483648)
    (port : Int64) {fuel : Nat} (hpos : 0 < fuel) (hfuel : maxPort.toInt - port.toInt + 1 < fuel) :
    ∃ r, ports.bindFrom maxPort fuel port = some r ∧
      Searched ports port.toInt maxPort.toInt r := by
  induction fuel generalizing port with
  | zero => omega
  | succ fuel ih =>
      unfold bindFrom
      split
      · next hle =>
          have hport := Int64.le_iff_toInt_le.mp hle
          rw [listen_address]
          cases hlisten : ports.listenOn port.toInt with
          | some p =>
              refine ⟨.ok p, rfl, .found (Int.le_refl _) hport ?_ hlisten⟩
              intro q hq hlt
              omega
          | none =>
              have hnext := toInt_add_one hle hmax
              obtain ⟨r, hr, hsearched⟩ := ih (port + 1) (by omega) (by omega)
              rw [hnext] at hsearched
              exact ⟨r, hr, hsearched.cons hlisten⟩
      · next hgt =>
          have hport : maxPort.toInt < port.toInt := by
            rw [Int64.le_iff_toInt_le] at hgt
            omega
          refine ⟨_, rfl, .unbound ?_⟩
          intro q hq hle
          omega

/-- More fuel does not change a result. -/
theorem bindFrom_of_le {maxPort port : Int64} {fuel fuel' : Nat} (hle : fuel ≤ fuel')
    {r : Except PortError Nat} (h : ports.bindFrom maxPort fuel port = some r) :
    ports.bindFrom maxPort fuel' port = some r := by
  induction fuel generalizing port fuel' with
  | zero => cases h
  | succ fuel ih =>
      obtain ⟨fuel', rfl⟩ : ∃ n, fuel' = n + 1 := ⟨fuel' - 1, by omega⟩
      unfold bindFrom at h ⊢
      split at h
      · next hport =>
          rw [if_pos hport]
          cases hlisten : ports.listen (address port) with
          | some p =>
              rw [hlisten] at h
              exact h
          | none =>
              rw [hlisten] at h
              exact ih (by omega) h
      · next hport =>
          rw [if_neg hport]
          exact h

/-! ### The range -/

/-- A value is malformed, the range is empty, or none of its ports can be bound. -/
def NoPort (ports : Ports) (envMin envMax : ByteString) : Prop :=
  portValue envMin = none ∨ portValue envMax = none ∨
    ∃ lo hi, portValue envMin = some lo ∧ portValue envMax = some hi ∧
      (hi.toInt < lo.toInt ∨ ∀ q : Nat, lo.toInt ≤ q → q ≤ hi.toInt → ¬ports.Bindable q)

/-- What the variables are for: the listener is on the first port of the range that can be bound,
    and there is an error where there is no such port. -/
structure StaysInRange (ports : Ports) (envMin envMax : ByteString) (r : Except PortError Nat) :
    Prop where
  ok : ∀ p, r = .ok p → ∃ lo hi, portValue envMin = some lo ∧ portValue envMax = some hi ∧
    lo.toInt ≤ p ∧ p ≤ hi.toInt ∧ ∀ q : Nat, lo.toInt ≤ q → q < p → ¬ports.Bindable q
  error : (∃ e, r = .error e) ↔ NoPort ports envMin envMax

/-- Port 0 is not in the range, or the port that it becomes happens to be the one that is looked
    for. -/
def ZeroHarmless (ports : Ports) (envMin envMax : ByteString) : Prop :=
  ∀ lo hi p, portValue envMin = some lo → portValue envMax = some hi → lo.toInt ≤ 0 →
    0 ≤ hi.toInt → ports.pick = some p → p ≤ hi.toInt ∧ ∀ q < p, ¬ports.Bindable q

/-- No round of the loop overflows. -/
def NoOverflow (envMin envMax : ByteString) : Prop :=
  ∀ lo hi port, portValue envMin = some lo → portValue envMax = some hi → lo ≤ port → port ≤ hi →
    (port + 1).toInt = port.toInt + 1

theorem toInt_of_portValue {value : ByteString} {port : Int64} (h : portValue value = some port) :
    -2147483648 ≤ port.toInt ∧ port.toInt < 2147483648 := by
  unfold portValue at h
  split at h
  · cases h
    decide
  · exact toInt_of_parseInt (by omega) h

section

variable {envMin envMax : ByteString}

theorem staysInRange_of_noPort (h : NoPort ports envMin envMax) {e : PortError} :
    StaysInRange ports envMin envMax (.error e) where
  ok p hp := by cases hp
  error := ⟨fun _ => h, fun _ => ⟨e, rfl⟩⟩

variable {lo hi : Int64} (hmin : portValue envMin = some lo) (hmax : portValue envMax = some hi)

include hmin hmax

/-- With well-formed values only the port itself and the ports of the range matter. -/
theorem staysInRange_ok_iff (hle : lo.toInt ≤ hi.toInt) {p : Nat} (hp : ports.Bindable p) :
    StaysInRange ports envMin envMax (.ok p) ↔
      lo.toInt ≤ p ∧ p ≤ hi.toInt ∧ ∀ q : Nat, lo.toInt ≤ q → q < p → ¬ports.Bindable q := by
  constructor
  · intro h
    obtain ⟨lo', hi', hmin', hmax', hrange⟩ := h.ok p rfl
    cases hmin.symm.trans hmin'
    cases hmax.symm.trans hmax'
    exact hrange
  · intro hrange
    refine ⟨?_, ⟨?_, ?_⟩⟩
    · intro p' hp'
      cases hp'
      exact ⟨lo, hi, hmin, hmax, hrange⟩
    · rintro ⟨e, he⟩
      cases he
    · rintro (hnone | hnone | ⟨lo', hi', hmin', hmax', hempty⟩)
      · cases hmin.symm.trans hnone
      · cases hmax.symm.trans hnone
      · cases hmin.symm.trans hmin'
        cases hmax.symm.trans hmax'
        rcases hempty with hlt | hnot
        · omega
        · exact absurd hp (hnot p hrange.1 hrange.2.1)

/-- Where port 0 is not in the range or nothing can be bound, nothing has to be shown. -/
theorem zeroHarmless_of (h : lo.toInt ≤ 0 → 0 ≤ hi.toInt → ports.pick = none) :
    ZeroHarmless ports envMin envMax := by
  intro lo' hi' p hmin' hmax' hle hge hpick
  cases hmin.symm.trans hmin'
  cases hmax.symm.trans hmax'
  cases (h hle hge).symm.trans hpick

theorem Searched.staysInRange_iff {r : Except PortError Nat}
    (h : Searched ports lo.toInt hi.toInt r) (hle : lo.toInt ≤ hi.toInt) :
    StaysInRange ports envMin envMax r ↔ ZeroHarmless ports envMin envMax := by
  cases h with
  | @found port p hlo hhi hbefore hport =>
      by_cases hzero : port = 0
      · subst hzero
        rw [listenOn_zero] at hport
        have hp : ports.Bindable p := ports.picked p hport
        rw [staysInRange_ok_iff hmin hmax hle hp]
        constructor
        · rintro ⟨-, hhigh, hfirst⟩ lo' hi' p' hmin' hmax' - - hpick
          cases hmin.symm.trans hmin'
          cases hmax.symm.trans hmax'
          cases hport.symm.trans hpick
          exact ⟨hhigh, fun q hq => hfirst q (by omega) hq⟩
        · intro hharmless
          obtain ⟨hhigh, hfirst⟩ := hharmless lo hi p hmin hmax hlo hhi hport
          exact ⟨by omega, hhigh, fun q _ hq => hfirst q hq⟩
      · rcases ports.listenOn_of_ne hzero with ⟨q, rfl, hq, hsome⟩ | ⟨hnone, -⟩
        · cases hport.symm.trans hsome
          -- port 0 would have been tried before
          have hpos : 0 < lo.toInt := by
            by_contra hneg
            have hpick := hbefore 0 (by omega) (by have := hq.1; omega)
            rw [listenOn_zero] at hpick
            have hfree := ports.exhausted hpick p hq.1 hq.2.1
            rw [hq.2.2] at hfree
            cases hfree
          refine iff_of_true ((staysInRange_ok_iff hmin hmax hle hq).mpr ⟨hlo, hhi, ?_⟩)
            (zeroHarmless_of hmin hmax fun hneg => by omega)
          intro q hge hlt
          exact not_bindable_of_listenOn (by omega) (hbefore q hge (by omega))
        · cases hport.symm.trans hnone
  | unbound hnone =>
      have hnot : ∀ q : Nat, lo.toInt ≤ q → q ≤ hi.toInt → ¬ports.Bindable q := by
        intro q hge hle hq
        exact not_bindable_of_listenOn hq.1 (hnone q hge hle) hq
      refine iff_of_true
        (staysInRange_of_noPort (Or.inr (Or.inr ⟨lo, hi, hmin, hmax, Or.inr hnot⟩)))
        (zeroHarmless_of hmin hmax fun hneg hpos => ?_)
      rw [← listenOn_zero]
      exact hnone 0 hneg hpos

end

theorem exists_search (ports : Ports) (envMin envMax : ByteString) :
    ∃ r, (∀ fuel, 4294967296 < fuel → ports.serverListenerTCP envMin envMax fuel = some r) ∧
      (StaysInRange ports envMin envMax r ↔ ZeroHarmless ports envMin envMax) := by
  unfold serverListenerTCP readPort
  cases hmin : portValue envMin with
  | none =>
      refine ⟨_, fun _ _ => rfl, iff_of_true (staysInRange_of_noPort (Or.inl hmin)) ?_⟩
      intro lo hi p hlo
      cases hmin.symm.trans hlo
  | some lo =>
      cases hmax : portValue envMax with
      | none =>
          refine ⟨_, fun _ _ => rfl,
            iff_of_true (staysInRange_of_noPort (Or.inr (Or.inl hmax))) ?_⟩
          intro lo hi p _ hhi
          cases hmax.symm.trans hhi
      | some hi =>
          dsimp only
          split
          · next hlt =>
              have hempty := Int64.lt_iff_toInt_lt.mp hlt
              exact ⟨_, fun _ _ => rfl, iff_of_true
                (staysInRange_of_noPort (Or.inr (Or.inr ⟨lo, hi, hmin, hmax, Or.inl hempty⟩)))
                (zeroHarmless_of hmin hmax fun hneg hpos => by omega)⟩
          · next hge =>
              have hle : lo.toInt ≤ hi.toInt := by
                rw [Int64.lt_iff_toInt_lt] at hge
                omega
              have hlow := toInt_of_portValue hmin
              have hhigh := toInt_of_portValue hmax
              obtain ⟨r, hr, hsearched⟩ := ports.searched_bindFrom hhigh.2 lo
                (show 0 < 4294967297 by omega) (by omega)
              exact ⟨r, fun fuel hfuel => bindFrom_of_le hfuel hr,
                hsearched.staysInRange_iff hmin hmax hle⟩

/-- **When the listener stays inside the range.**  Whatever the two variables are and whatever can
    be bound, `serverListenerTCP` ends, without an overflow.  It gives the first port of the range
    that can be bound, or the right error, exactly where port 0 is not in the range or the port
    that the operating system picks for it is the first one by chance. -/
theorem serverListenerTCP_stays_iff (ports : Ports) (envMin envMax : ByteString) :
    NoOverflow envMin envMax ∧
      ∃ r, (∀ fuel, 4294967296 < fuel → ports.serverListenerTCP envMin envMax fuel = some r) ∧
        (StaysInRange ports envMin envMax r ↔ ZeroHarmless ports envMin envMax) := by
  refine ⟨?_, exists_search ports envMin envMax⟩
  intro lo hi port _ hmax _ hle
  exact toInt_add_one hle (toInt_of_portValue hmax).2

/-- All ports but one are taken. -/
def oneLeft : Ports where
  free p := p == 50000
  pick := some 50000
  picked p hp := by
    cases hp
    decide
  exhausted h := by cases h

/-- With `PLUGIN_MAX_PORT` alone the search begins at port 0, and the listener is far outside. -/
theorem oneLeft_escapes_range :
    (∀ fuel, oneLeft.serverListenerTCP [] (ascii "100") (fuel + 1) = some (.ok 50000)) ∧
      ¬StaysInRange oneLeft [] (ascii "100") (.ok 50000) := by
  refine ⟨fun _ => rfl, fun h => ?_⟩
  obtain ⟨lo, hi, -, hmax, -, hle, -⟩ := h.ok 50000 rfl
  have hhi : hi = 100 := Option.some.inj (hmax.symm.trans rfl)
  subst hhi
  revert hle
  decide

/-! ### The plugins of a host -/

theorem portValue_formatUint (n : Nat) :
    portValue (formatUint n) = if n < 2147483648 then some (Int64.ofInt n) else none := by
  rw [portValue, if_neg fun h => formatUint_ne_nil n (List.length_eq_zero_iff.mp h)]
  exact parseInt_formatUint 32 n

/-- A host with a `MinPort` keeps port 0 out of the range. -/
theorem zeroHarmless_startEnv (ports : Ports) (c : ClientConfig) (hmin : 1 ≤ c.minPort.toNat)
    (hostEnv : List ByteString) (order : GoMap.RangeOrder Int64 PluginSet)
    (certPEM socketDir : ByteString) :
    ZeroHarmless ports (getenv (c.startEnv hostEnv order certPEM socketDir) envMinPort)
      (getenv (c.startEnv hostEnv order certPEM socketDir) envMaxPort) := by
  intro lo hi p hlo _ hneg
  rw [ClientConfig.getenv_startEnv_minPort, portValue_formatUint] at hlo
  split at hlo
  · next hlt =>
      cases hlo
      rw [Int64.toInt_ofInt_of_le (by omega) (by omega)] at hneg
      omega
  · cases hlo

/-- The outcomes of `serverListener` on Windows, with what the search finds. -/
def outcomes (r : Except PortError Nat) : ListenOutcomes where
  windows := true
  listenTCP := r.isOk
  createTemp := false
  closeTemp := false
  removeTemp := false
  listen := false
  setGroup := false

theorem opens_outcomes {r : Except PortError Nat} :
    (outcomes r).opens = true ↔ ¬∃ e, r = .error e := by
  cases r with
  | ok p =>
      refine iff_of_true rfl ?_
      rintro ⟨e, he⟩
      cases he
  | error e =>
      refine iff_of_false ?_ (not_not_intro ⟨e, rfl⟩)
      intro h
      cases h

/-- On Windows, the plugin of a host with a `MinPort` opens a socket exactly where a port of the
    host's range can be bound. -/
theorem launched_opens_iff (ports : Ports) (c : ClientConfig) (hmin : 1 ≤ c.minPort.toNat)
    (hostEnv : List ByteString) (order : GoMap.RangeOrder Int64 PluginSet)
    (certPEM socketDir : ByteString) :
    let env := c.startEnv hostEnv order certPEM socketDir
    ∃ r, (∀ fuel, 4294967296 < fuel →
        ports.serverListenerTCP (getenv env envMinPort) (getenv env envMaxPort) fuel = some r) ∧
      ((outcomes r).opens = true ↔
        ¬NoPort ports (getenv env envMinPort) (getenv env envMaxPort)) := by
  intro env
  obtain ⟨r, hr, hiff⟩ :=
    exists_search ports (getenv env envMinPort) (getenv env envMaxPort)
  have hstays := hiff.mpr (zeroHarmless_startEnv ports c hmin hostEnv order certPEM socketDir)
  exact ⟨r, hr, by rw [opens_outcomes, hstays.error]⟩

end Ports

end GoPlugin
