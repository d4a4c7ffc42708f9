import GoPlugin.ByteString
import GoPlugin.GoBody

/-!
# Listeners (`serverListener`)

The sockets that `net.Listen` has opened, what `serverListener` does to open one, and what it means
to close the listener that it returns.  Which of the calls to the operating system fail is a
parameter.
-/

namespace GoPlugin

open GoBody

/-- A socket: whether it listens, and whether there is a file for it. -/
structure Socket where
  listening : Bool
  file : Bool
deriving DecidableEq, Repr

/-- Every socket that was opened, in order; a listener goes by its number. -/
abbrev Sockets := List Socket

/-- Which calls of `serverListener` succeed. -/
structure ListenOutcomes where
  windows : Bool
  listenTCP : Bool      -- the search for a port
  createTemp : Bool
  closeTemp : Bool
  removeTemp : Bool
  listen : Bool
  setGroup : Bool
deriving DecidableEq, Repr

inductive ListenError where
  | listenTCP
  | createTemp
  | closeTemp
  | removeTemp
  | listen
  | setGroup
deriving DecidableEq, Repr

abbrev ListenerBody := Body Sockets (Except ListenError Nat)

namespace ListenerBody

/-- A call that can fail: `if err != nil` and the return. -/
def require (ok : Bool) (e : ListenError) : ListenerBody Unit :=
  if ok then pure () else .ret (.error e)

/-- `net.Listen`, where it succeeds. -/
def netListen (file : Bool) : ListenerBody Nat := do
  let s ← Body.read
  Body.update fun s => s ++ [⟨true, file⟩]
  pure s.length

def serverListenerTCP (o : ListenOutcomes) : ListenerBody (Except ListenError Nat) := do
  require o.listenTCP .listenTCP
  let n ← netListen false
  pure (.ok n)

def serverListenerUnix (o : ListenOutcomes) (group : ByteString) :
    ListenerBody (Except ListenError Nat) := do
  require o.createTemp .createTemp
  require o.closeTemp .closeTemp
  require o.removeTemp .removeTemp
  require o.listen .listen
  let n ← netListen true
  if group = [] then pure () else require o.setGroup .setGroup
  pure (.ok n)

def serverListener (o : ListenOutcomes) (group : ByteString) :
    ListenerBody (Except ListenError Nat) :=
  if o.windows then serverListenerTCP o else serverListenerUnix o group

end ListenerBody

/-- `serverListener` gets as far as an open socket. -/
def ListenOutcomes.opens (o : ListenOutcomes) : Bool :=
  if o.windows then o.listenTCP else o.createTemp && o.closeTemp && o.removeTemp && o.listen

/-- The group of the socket is as it is configured. -/
def ListenOutcomes.groups (o : ListenOutcomes) (group : ByteString) : Bool :=
  o.windows || group.isEmpty || o.setGroup

/-- The socket that it opens. -/
def ListenOutcomes.opened (o : ListenOutcomes) : Socket := ⟨true, !o.windows⟩

namespace ListenerBody

variable {ρ : Type}

/-- How `serverListener` ends: with nothing opened, or with an open socket, which it returns
    unless the group cannot be set. -/
inductive Listened (o : ListenOutcomes) (group : ByteString) (s : Sockets) :
    Flow ρ (Except ListenError Nat) × Sockets → Prop where
  | nothing (e : ListenError) (h : o.opens = false) : Listened o group s (.next (.error e), s)
  | ungrouped (h : o.opens = true) (hgroup : o.groups group = false) :
      Listened o group s (.next (.error .setGroup), s ++ [o.opened])
  | opened (h : o.opens = true) (hgroup : o.groups group = true) :
      Listened o group s (.next (.ok s.length), s ++ [o.opened])

theorem listened_serverListener (o : ListenOutcomes) (group : ByteString) (s : Sockets) :
    Listened (ρ := ρ) o group s (Body.call (serverListener o group) s) := by
  obtain ⟨windows, listenTCP, createTemp, closeTemp, removeTemp, listen, setGroup⟩ := o
  cases windows with
  | true =>
      cases listenTCP with
      | false => exact .nothing .listenTCP rfl
      | true => exact .opened rfl rfl
  | false =>
      cases createTemp with
      | false => exact .nothing .createTemp rfl
      | true =>
      cases closeTemp with
      | false => exact .nothing .closeTemp rfl
      | true =>
      cases removeTemp with
      | false => exact .nothing .removeTemp rfl
      | true =>
      cases listen with
      | false => exact .nothing .listen rfl
      | true =>
      cases group with
      | nil => exact .opened rfl rfl
      | cons b group =>
          cases setGroup with
          | false => exact .ungrouped rfl rfl
          | true => exact .opened rfl rfl

/-- The call in another function, whose frame has the sockets as a part. -/
theorem within_serverListener {σ : Type} (get : σ → Sockets) (put : Sockets → σ → σ)
    (o : ListenOutcomes) (group : ByteString) (s : σ) :
    (o.opens = false ∧ ∃ e, Body.within (ρ := ρ) get put (Body.call (serverListener o group)) s =
        (.next (.error e), put (get s) s)) ∨
      (o.opens = true ∧ o.groups group = false ∧
        Body.within (ρ := ρ) get put (Body.call (serverListener o group)) s =
          (.next (.error .setGroup), put (get s ++ [o.opened]) s)) ∨
      (o.opens = true ∧ o.groups group = true ∧
        Body.within (ρ := ρ) get put (Body.call (serverListener o group)) s =
          (.next (.ok (get s).length), put (get s ++ [o.opened]) s)) := by
  have hlistened := listened_serverListener (ρ := ρ) o group (get s)
  unfold Body.within
  generalize Body.call (ρ := ρ) (serverListener o group) (get s) = x at hlistened
  cases hlistened with
  | nothing e hopens => exact Or.inl ⟨hopens, e, rfl⟩
  | ungrouped hopens hgroup => exact Or.inr (Or.inl ⟨hopens, hgroup, rfl⟩)
  | opened hopens hgroup => exact Or.inr (Or.inr ⟨hopens, hgroup, rfl⟩)

end ListenerBody

/-! ### Closing -/

/-- A `net.Listener` that goes back to `serverListener`: the socket itself, in an `rmListener`
    where it has a file, or a wrapper around another one. -/
inductive NetListener where
  | socket (n : Nat)
  | tls (inner : NetListener)
  | muxer (inner : NetListener)
deriving DecidableEq, Repr

namespace NetListener

/-- `Close`.  The listener of a socket shuts it and unlinks its file, after which `os.Remove` of
    an `rmListener` finds nothing more to do; a second call only fails.  `tls.NewListener` passes
    the call on.  `GRPCServerMuxer.Close` closes its session and nothing else: the listener that
    it was made from is not among its fields. -/
def close : NetListener → Sockets → Sockets
  | .socket n, s => s.set n ⟨false, false⟩
  | .tls inner, s => inner.close s
  | .muxer _, s => s

/-- The socket that `Close` shuts. -/
def shuts : NetListener → Option Nat
  | .socket n => some n
  | .tls inner => inner.shuts
  | .muxer _ => none

theorem close_of_shuts {l : NetListener} {n : Nat} (h : l.shuts = some n) (s : Sockets) :
    l.close s = s.set n ⟨false, false⟩ := by
  induction l with
  | socket m =>
      cases h
      rfl
  | tls inner ih => exact ih h
  | muxer inner ih => cases h

end NetListener

end GoPlugin
