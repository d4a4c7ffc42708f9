import GoPlugin.NetRPC

/-!
# The output of a net/rpc plugin

All connections read the same two pipes, so the output of a plugin is divided among its hosts.
Each byte goes to one of them, and what a host's writers get is the beginning of its share, in
order and never of the other stream.  Of a share only the end can be missing, after a `copyStream`
goroutine on either side has returned.
-/

namespace GoPlugin

open LabelledSystem Tally Shares

@[simp] theorem CopyStreamPc.pending_idle : CopyStreamPc.idle.pending = [] := rfl

@[simp] theorem CopyStreamPc.pending_reading : CopyStreamPc.reading.pending = [] := rfl

@[simp] theorem CopyStreamPc.pending_writing (buf : ByteString) :
    (CopyStreamPc.writing buf).pending = buf := rfl

@[simp] theorem CopyStreamPc.pending_returned : CopyStreamPc.returned.pending = [] := rfl

@[simp] theorem CopyStreamPc.pending_wrote (ok : Bool) : (CopyStreamPc.wrote ok).pending = [] := by
  cases ok <;> rfl

@[simp] theorem pending_copyStream (src dst : Bool) : (copyStream src dst).pending = [] := by
  unfold copyStream
  split <;> rfl

/-! ### A stream of a connection -/

/-- What has been written of `given` and what is under way: `y` and `x` are the `copyStream`
    goroutines of host and plugin, and `flight` is on the stream between them. -/
structure CarriesAt (given written : ByteString) (y : CopyStreamPc) (flight : ByteString)
    (x : CopyStreamPc) : Prop where
  begins : written <+: given
  carried : y ≠ .returned → written ++ (y.pending ++ (flight ++ x.pending)) <+: given
  whole : y ≠ .returned → x ≠ .returned →
    written ++ (y.pending ++ (flight ++ x.pending)) = given

namespace CarriesAt

variable {given written flight buf : ByteString} {x y : CopyStreamPc}

theorem init : CarriesAt [] [] .idle [] .idle where
  begins := List.prefix_refl _
  carried _ := List.prefix_refl _
  whole _ _ := rfl

theorem of_whole (hwritten : written <+: given)
    (h : y ≠ .returned → written ++ (y.pending ++ (flight ++ x.pending)) = given) :
    CarriesAt given written y flight x :=
  ⟨hwritten, fun hy => (h hy) ▸ List.prefix_refl _, fun hy _ => h hy⟩

/-- The plugin's goroutine starts. -/
theorem start (h : CarriesAt given written y flight .idle) (src dst : Bool) :
    CarriesAt given written y flight (copyStream src dst) := by
  refine of_whole h.begins fun hy => ?_
  simpa using h.whole hy (by simp)

/-- The host's goroutine starts. -/
theorem sync (h : CarriesAt given written .idle flight x) (src dst : Bool) :
    CarriesAt given written (copyStream src dst) flight x := by
  refine ⟨h.begins, fun _ => ?_, fun _ hx => ?_⟩
  · simpa using h.carried (by simp)
  · simpa using h.whole (by simp) hx

theorem feed (h : CarriesAt given written y flight .reading) (chunk : ByteString) :
    CarriesAt (given ++ chunk) written y flight (.writing chunk) := by
  refine of_whole (h.begins.trans (List.prefix_append _ _)) fun hy => ?_
  rw [← h.whole hy (by simp)]
  simp

theorem sent (h : CarriesAt given written y flight (.writing buf)) {n : Nat} {ok : Bool}
    (hok : ok = true → n = buf.length) :
    CarriesAt given written y (flight ++ buf.take n) (.wrote ok) := by
  cases ok with
  | true =>
      refine of_whole h.begins fun hy => ?_
      rw [← h.whole hy (by simp), hok rfl]
      simp
  | false =>
      refine ⟨h.begins, fun hy => ?_, fun _ hx => absurd rfl hx⟩
      -- the rest of the buffer is lost
      refine List.IsPrefix.trans ⟨buf.drop n, ?_⟩ (h.carried hy)
      simp

theorem sendEnds (h : CarriesAt given written y flight .reading) :
    CarriesAt given written y flight .returned :=
  ⟨h.begins, h.carried, fun _ hx => absurd rfl hx⟩

theorem received (h : CarriesAt given written .reading flight x) (n : Nat) :
    CarriesAt given written (.writing (flight.take n)) (flight.drop n) x := by
  have hflight : flight.take n ++ (flight.drop n ++ x.pending) = flight ++ x.pending := by
    rw [← List.append_assoc, List.take_append_drop]
  refine ⟨h.begins, fun _ => ?_, fun _ hx => ?_⟩
  · have hcarried := h.carried (by simp)
    simpa [hflight] using hcarried
  · have hwhole := h.whole (by simp) hx
    simpa [hflight] using hwhole

theorem receiveEnds (h : CarriesAt given written .reading flight x) :
    CarriesAt given written .returned flight x :=
  ⟨h.begins, fun hy => absurd rfl hy, fun hy => absurd rfl hy⟩

theorem wrote (h : CarriesAt given written (.writing buf) flight x) {n : Nat} {ok : Bool}
    (hok : ok = true → n = buf.length) :
    CarriesAt given (written ++ buf.take n) (.wrote ok) flight x := by
  have hwritten : written ++ buf.take n <+: given := by
    refine List.IsPrefix.trans ⟨buf.drop n ++ (flight ++ x.pending), ?_⟩ (h.carried (by simp))
    simp [← List.append_assoc (buf.take n)]
  cases ok with
  | true =>
      have hfull : buf.take n = buf := by rw [hok rfl, List.take_length]
      refine ⟨hwritten, fun _ => ?_, fun _ hx => ?_⟩
      · have hcarried := h.carried (by simp)
        simpa [hfull] using hcarried
      · have hwhole := h.whole (by simp) hx
        simpa [hfull] using hwhole
  | false => exact ⟨hwritten, fun hy => absurd rfl hy, fun hy => absurd rfl hy⟩

end CarriesAt

/-! ### A connection -/

namespace RPCConn

/-- The output that is on its stream. -/
def flight (s : RPCConn) (ch : StdStream) : ByteString :=
  ((s.streams[ch.index + 1]?).map RPCStream.toHost).getD []

structure Carries (given : StdStream → ByteString) (s : RPCConn) : Prop where
  carries : ∀ ch, CarriesAt (given ch) (s.written ch) (s.synced ch) (s.flight ch) (s.sent ch)
  idle : s.server.pc ≠ .ready → s.server.pc ≠ .failed → ∀ ch, s.sent ch = .idle

variable {given : StdStream → ByteString} {s s' : RPCConn}

theorem carries_init : Carries (fun _ => []) init where
  carries _ := .init
  idle _ _ _ := rfl

/-- Streams may change in their calls and replies. -/
theorem flight_congr {ch : StdStream}
    (h : s'.streams.map RPCStream.toHost = s.streams.map RPCStream.toHost) :
    s'.flight ch = s.flight ch := by
  simp only [flight, ← List.getElem?_map, h]

theorem map_toHost_modify (f : RPCStream → RPCStream) (hf : ∀ x, (f x).toHost = x.toHost)
    (l : List RPCStream) (i : Nat) :
    (l.modify i f).map RPCStream.toHost = l.map RPCStream.toHost := by
  induction l generalizing i with
  | nil => simp
  | cons x l ih =>
      cases i with
      | zero => simp [hf]
      | succ i => simp [ih]

theorem Carries.congr (h : Carries given s) (hwritten : s'.written = s.written)
    (hsynced : s'.synced = s.synced) (hsent : s'.sent = s.sent) (hserver : s'.server = s.server)
    (hstreams : s'.streams.map RPCStream.toHost = s.streams.map RPCStream.toHost) :
    Carries given s' := by
  refine ⟨fun ch => ?_, ?_⟩
  · rw [hwritten, hsynced, hsent, flight_congr hstreams]
    exact h.carries ch
  · rw [hserver, hsent]
    exact h.idle

/-- One of the two output streams changes at both ends or between them. -/
theorem Carries.set (h : Carries given s) (ch : StdStream)
    (hch : CarriesAt (given ch) (s'.written ch) (s'.synced ch) (s'.flight ch) (s'.sent ch))
    (hother : ∀ ch', ch' ≠ ch → s'.written ch' = s.written ch' ∧ s'.synced ch' = s.synced ch' ∧
      s'.flight ch' = s.flight ch' ∧ s'.sent ch' = s.sent ch')
    (hidle : s'.server.pc ≠ .ready → s'.server.pc ≠ .failed → ∀ ch, s'.sent ch = .idle) :
    Carries given s' := by
  refine ⟨fun ch' => ?_, hidle⟩
  by_cases hne : ch' = ch
  · rw [hne]
    exact hch
  · obtain ⟨hwritten, hsynced, hflight, hsent⟩ := hother ch' hne
    rw [hwritten, hsynced, hflight, hsent]
    exact h.carries ch'

/-- A goroutine that has started belongs to an end that is set up. -/
theorem Carries.not_idle (h : Carries given s) (ch : StdStream) (hsent : s.sent ch ≠ .idle) :
    s.server.pc = .ready ∨ s.server.pc = .failed := by
  by_contra hpc
  rw [not_or] at hpc
  exact hsent (h.idle hpc.1 hpc.2 ch)

theorem StdStream.index_inj {ch ch' : StdStream} (h : ch.index = ch'.index) : ch = ch' := by
  cases ch <;> cases ch' <;> first | rfl | cases h

/-- The stream of the other output is another one. -/
theorem flight_set_of_ne {ch ch' : StdStream} (hne : ch' ≠ ch) {l : List RPCStream}
    (hl : ∀ j, j ≠ ch.index + 1 → l[j]? = s.streams[j]?) :
    ({ s with streams := l } : RPCConn).flight ch' = s.flight ch' := by
  have hj : ch'.index + 1 ≠ ch.index + 1 := by
    intro heq
    exact hne (StdStream.index_inj (Nat.succ.inj heq))
  simp only [flight, hl _ hj]

theorem Carries.send (h : Carries given s) (hw : Wired s) {ch : StdStream} {n i : Nat} {ok : Bool}
    {buf : ByteString} (hsent : s.sent ch = .writing buf)
    (hi : s.server.table.stdio ch = some i) (hok : ok = true → n = buf.length) :
    Carries given
      { s with
        streams := s.streams.modify i fun x => { x with toHost := x.toHost ++ buf.take n }
        sent := Function.update s.sent ch (.wrote ok) } := by
  rw [hw.server.table] at hi
  obtain ⟨rfl, hlt⟩ := RPCEnd.stdio_tableAt hi
  have hready := h.not_idle ch (by simp [hsent])
  have hcarries := h.carries ch
  rw [hsent] at hcarries
  refine h.set ch ?_ ?_ ?_
  · have hflight : RPCConn.flight
        { s with
          streams := s.streams.modify (ch.index + 1)
            fun x => { x with toHost := x.toHost ++ buf.take n }
          sent := Function.update s.sent ch (.wrote ok) } ch = s.flight ch ++ buf.take n := by
      obtain ⟨x, hx⟩ : ∃ x, s.streams[ch.index + 1]? = some x :=
        ⟨_, List.getElem?_eq_getElem (Nat.lt_of_lt_of_le hlt hw.accepted)⟩
      simp [flight, hx]
    rw [hflight]
    simpa using hcarries.sent hok
  · intro ch' hne
    refine ⟨rfl, rfl, flight_set_of_ne hne fun j hj => ?_, Function.update_of_ne hne _ _⟩
    simp [Ne.symm hj]
  · intro hnready hnfailed
    rcases hready with hready | hfailed
    · exact absurd hready hnready
    · exact absurd hfailed hnfailed

theorem Carries.receive (h : Carries given s) (hw : Wired s) {ch : StdStream} {n i : Nat}
    {x : RPCStream} (hsynced : s.synced ch = .reading) (hi : s.client.table.stdio ch = some i)
    (hx : s.streams[i]? = some x) :
    Carries given
      { s with
        streams := s.streams.set i { x with toHost := x.toHost.drop n }
        synced := Function.update s.synced ch (.writing (x.toHost.take n)) } := by
  rw [hw.client.table] at hi
  obtain ⟨rfl, hlt⟩ := RPCEnd.stdio_tableAt hi
  have hcarries := h.carries ch
  have hflight : s.flight ch = x.toHost := by simp [flight, hx]
  rw [hsynced, hflight] at hcarries
  refine h.set ch ?_ ?_ h.idle
  · have hset : RPCConn.flight
        { s with
          streams := s.streams.set (ch.index + 1) { x with toHost := x.toHost.drop n }
          synced := Function.update s.synced ch (.writing (x.toHost.take n)) } ch =
        x.toHost.drop n := by
      simp [flight, List.getElem?_set_self hlt]
    rw [hset]
    simpa using hcarries.received n
  · intro ch' hne
    refine ⟨rfl, Function.update_of_ne hne _ _, flight_set_of_ne hne fun j hj => ?_, rfl⟩
    exact List.getElem?_set_ne (Ne.symm hj)

theorem take_pc {e e' : RPCEnd} {n : Nat} (h : e.take n = some e') :
    e.pc ≠ .failed ∧ (e.pc = .ready → e'.pc = .ready) := by
  unfold RPCEnd.take at h
  cases hpc : e.pc with
  | control | stdstream i =>
      exact ⟨by simp, by simp⟩
  | ready =>
      rw [hpc] at h
      cases h
      exact ⟨by simp, fun _ => rfl⟩
  | failed =>
      rw [hpc] at h
      cases h

theorem Carries.next {cfg : StdioConfig} (h : Carries given s) (hw : Wired s)
    (hnext : Next cfg s s') : Carries given s' := by
  cases hnext with
  | @opened e he =>
      refine ⟨fun ch => ?_, h.idle⟩
      have hflight : RPCConn.flight
          { s with client := e, streams := s.streams ++ [⟨[], [], []⟩] } ch = s.flight ch := by
        simp only [flight]
        rcases Nat.lt_trichotomy (ch.index + 1) s.streams.length with hlt | heq | hgt
        · rw [List.getElem?_append_left hlt]
        · rw [heq]
          simp
        · rw [List.getElem?_eq_none (by simp; omega), List.getElem?_eq_none (by omega)]
      rw [hflight]
      exact h.carries ch
  | openFails => exact h.congr rfl rfl rfl rfl rfl
  | @accepted e hlt he =>
      obtain ⟨hnfailed, hkeep⟩ := take_pc he
      by_cases hstart : s.server.pc ≠ .ready ∧ e.pc = .ready
      · simp only [if_pos hstart]
        refine ⟨fun ch => ?_, fun hnready => absurd hstart.2 hnready⟩
        have hcarries := h.carries ch
        rw [h.idle hstart.1 hnfailed ch] at hcarries
        exact hcarries.start _ _
      · simp only [if_neg hstart]
        refine ⟨h.carries, fun hnready _ => ?_⟩
        exact h.idle (fun hready => hnready (hkeep hready)) hnfailed
  | acceptFails => exact ⟨h.carries, fun _ hnfailed => absurd rfl hnfailed⟩
  | syncStreams hout herr =>
      refine ⟨fun ch => ?_, h.idle⟩
      have hcarries := h.carries ch
      have hidle : s.synced ch = .idle := by
        cases ch
        · exact hout
        · exact herr
      rw [hidle] at hcarries
      exact hcarries.sync _ _
  | send hsent hi hok => exact h.send hw hsent hi hok
  | @sendEnds ch hsent =>
      have hcarries := h.carries ch
      rw [hsent] at hcarries
      refine h.set ch ?_ ?_ ?_
      · dsimp only
        rw [Function.update_self]
        exact hcarries.sendEnds
      · intro ch' hne
        exact ⟨rfl, rfl, rfl, Function.update_of_ne hne _ _⟩
      · intro hnready hnfailed
        have hready := h.not_idle ch (by simp [hsent])
        exact absurd hready (by simp [hnready, hnfailed])
  | receive hsynced hi hx => exact h.receive hw hsynced hi hx
  | @receiveEnds ch hsynced =>
      have hcarries := h.carries ch
      rw [hsynced] at hcarries
      refine h.set ch ?_ ?_ h.idle
      · dsimp only
        rw [Function.update_self]
        exact hcarries.receiveEnds
      · intro ch' hne
        exact ⟨rfl, Function.update_of_ne hne _ _, rfl, rfl⟩
  | @write ch n ok buf hsynced hok =>
      have hcarries := h.carries ch
      rw [hsynced] at hcarries
      refine h.set ch ?_ ?_ h.idle
      · dsimp only
        rw [Function.update_self, Function.update_self]
        exact hcarries.wrote hok
      · intro ch' hne
        exact ⟨Function.update_of_ne hne _ _, Function.update_of_ne hne _ _, rfl, rfl⟩
  | quit => exact h.congr rfl rfl rfl rfl (map_toHost_modify _ (by intro x; rfl) _ _)
  | quitFails | hangUp => exact h.congr rfl rfl rfl rfl rfl
  | close hpc hclose =>
      cases hclose <;> exact h.congr rfl rfl rfl rfl rfl

theorem Carries.request {seq : Nat} (h : Carries given s) (hreq : s.request = some (seq, s')) :
    Carries given s' := by
  obtain ⟨i, x, requests, hx, rfl⟩ := request_eq_some hreq
  refine h.congr rfl rfl rfl rfl ?_
  obtain ⟨hlt, rfl⟩ := List.getElem?_eq_some_iff.mp hx
  have hlt' : i < (s.streams.map RPCStream.toHost).length := by simpa using hlt
  rw [List.map_set]
  simpa using List.set_getElem_self hlt'

theorem Carries.reply (h : Carries given s) (seq : Nat) : Carries given (s.reply seq) := by
  rcases reply_cases s seq with heq | ⟨i, -, heq⟩
  · rw [heq]
    exact h
  · rw [heq]
    exact h.congr rfl rfl rfl rfl (map_toHost_modify _ (by intro x; rfl) _ _)

theorem Carries.feed {given' : StdStream → ByteString} (h : Carries given s) {ch : StdStream}
    {chunk : ByteString} (hsent : s.sent ch = .reading) (hch : given' ch = given ch ++ chunk)
    (hother : ∀ ch', ch' ≠ ch → given' ch' = given ch') : Carries given' (s.feed ch chunk) := by
  refine ⟨fun ch' => ?_, ?_⟩
  · by_cases hne : ch' = ch
    · have hcarries := h.carries ch
      rw [hsent] at hcarries
      rw [hne, hch]
      simpa [RPCConn.feed, flight] using hcarries.feed chunk
    · rw [hother ch' hne]
      simpa [RPCConn.feed, flight, Function.update_of_ne hne] using h.carries ch'
  · intro hnready hnfailed
    have hready := h.not_idle ch (by simp [hsent])
    exact absurd hready (by simpa [RPCConn.feed] using ⟨hnready, hnfailed⟩)

end RPCConn

/-! ### All connections -/

namespace NetRPC

/-- Every chunk went to a connection, which carries it on. -/
structure Divided (s : NetRPC) : Prop where
  known : ∀ ch, ∀ x ∈ s.chunks ch, x.1 < s.conns.length
  conns : ∀ (c : Nat) (conn : RPCConn), s.conns[c]? = some conn →
    conn.Wired ∧ conn.Carries fun ch => share (s.chunks ch) c

theorem divided_init : Divided init where
  known _ _ h := by cases h
  conns c conn h := by simp [init] at h

/-- One connection goes on and the pipes are left alone. -/
theorem Divided.set {s s' : NetRPC} (h : Divided s) {c : Nat} {conn' : RPCConn}
    (hconns : s'.conns = s.conns.set c conn')
    (hchunks : s'.chunks = s.chunks) (hwired : conn'.Wired)
    (hcarries : conn'.Carries fun ch => share (s.chunks ch) c) : Divided s' := by
  refine ⟨?_, fun d conn₂ hd => ?_⟩
  · rw [hchunks, hconns, List.length_set]
    exact h.known
  · rw [hchunks]
    rw [hconns] at hd
    rcases getElem?_set_cases hd with ⟨rfl, rfl⟩ | ⟨-, hold⟩
    · exact ⟨hwired, hcarries⟩
    · exact h.conns d conn₂ hold

theorem Divided.next {cfg : StdioConfig} {s s' : NetRPC} {a : Act} (h : Divided s)
    (hnext : Next cfg s a s') : Divided s' := by
  have hwire := RPCConn.invariant_wired cfg
  cases hnext with
  | print | acceptFails | done | cancel | main => exact ⟨h.known, h.conns⟩
  | connect =>
      refine ⟨fun ch x hx => ?_, fun c conn hc => ?_⟩
      · have := h.known ch x hx
        simp
        omega
      · rcases getElem?_concat_cases hc with hold | ⟨rfl, rfl⟩
        · exact h.conns c conn hold
        · refine ⟨RPCConn.wired_init, ?_⟩
          -- nothing was read for it so far
          have hnil : (fun ch => share (s.chunks ch) s.conns.length) = fun _ => [] :=
            funext fun ch => share_eq_nil fun x hx => Nat.ne_of_lt (h.known ch x hx)
          rw [hnil]
          exact RPCConn.carries_init
  | conn hc hconn =>
      obtain ⟨hwired, hcarries⟩ := h.conns _ _ hc
      exact h.set rfl rfl (hwired.next hconn) (hcarries.next hwired hconn)
  | request hc hreq =>
      obtain ⟨hwired, hcarries⟩ := h.conns _ _ hc
      exact h.set rfl rfl (hwire.request _ _ _ hwired hreq) (hcarries.request hreq)
  | reply hk hc =>
      obtain ⟨hwired, hcarries⟩ := h.conns _ _ hc
      exact h.set rfl rfl (hwire.reply _ _ hwired) (hcarries.reply _)
  | @copyRead c ch n conn hc hsent =>
      obtain ⟨hwired, hcarries⟩ := h.conns c conn hc
      have hlt := (List.getElem?_eq_some_iff.mp hc).1
      refine ⟨fun ch' x hx => ?_, fun d conn' hd => ?_⟩
      · dsimp only at hx ⊢
        rw [List.length_set]
        rcases mem_give _ _ _ _ _ hx with hold | rfl
        · exact h.known ch' x hold
        · exact hlt
      · rcases getElem?_set_cases hd with ⟨rfl, rfl⟩ | ⟨hne, hold⟩
        · refine ⟨hwire.feed _ _ _ hwired, hcarries.feed hsent ?_ fun ch' hch => ?_⟩
          · dsimp only
            rw [share_give, if_pos ⟨rfl, rfl⟩]
          · dsimp only
            rw [share_give, if_neg fun h => hch h.1, List.append_nil]
        · obtain ⟨hwired', hcarries'⟩ := h.conns d conn' hold
          refine ⟨hwired', ?_⟩
          have hsame : (fun ch' => share (give s.chunks ch c ((s.unread ch).take n) ch') d) =
              fun ch' => share (s.chunks ch') d := by
            funext ch'
            rw [share_give, if_neg fun h => hne h.2.symm, List.append_nil]
          rw [hsame]
          exact hcarries'

/-- What the plugin's process writes to a stream in a run. -/
def printed (ch : StdStream) : List Act → ByteString
  | [] => []
  | .print ch' bytes :: run => if ch' = ch then bytes ++ printed ch run else printed ch run
  | _ :: run => printed ch run

/-- What has been read from a pipe, and what has not. -/
def content (s : NetRPC) (ch : StdStream) : ByteString :=
  ((s.chunks ch).map Prod.snd).flatten ++ s.unread ch

theorem content_next {cfg : StdioConfig} {s s' : NetRPC} {a : Act} (h : Next cfg s a s')
    (ch : StdStream) : s'.content ch = s.content ch ++ printed ch [a] := by
  cases h with
  | @print ch' bytes =>
      by_cases heq : ch' = ch
      · simp [content, printed, heq]
      · simp [content, printed, heq, Function.update_of_ne (Ne.symm heq)]
  | @copyRead c ch' n conn hc hsent =>
      by_cases heq : ch' = ch
      · subst heq
        simp [content, printed, flatten_give]
      · simp [content, printed, flatten_give, Ne.symm heq]
  | connect | acceptFails | conn | request | done | reply | cancel | main =>
      simp [content, printed]

theorem printed_cons (ch : StdStream) (a : Act) (run : List Act) :
    printed ch (a :: run) = printed ch [a] ++ printed ch run := by
  cases a with
  | print ch' bytes => by_cases heq : ch' = ch <;> simp [printed, heq]
  | _ => simp [printed]

/-- The pipes hold what was printed. -/
theorem content_of_exec {cfg : StdioConfig} {run : List Act} {s s' : NetRPC}
    (hrun : exec (step cfg) s run = some s') (ch : StdStream) :
    s'.content ch = s.content ch ++ printed ch run := by
  induction run generalizing s with
  | nil =>
      cases hrun
      simp [printed]
  | cons a run ih =>
      obtain ⟨t, ht, hrest⟩ := exec_cons_eq_some.mp hrun
      rw [ih hrest, content_next (next_of_step ht), printed_cons ch a run, List.append_assoc]

/-- **Division of the output.**  In every run what the plugin prints on a stream is cut into chunks
    that go to one of its connections each, up to what is still unread.  A host's writer gets the
    beginning of the chunks of its connection; it has got all of them when both `copyStream`
    goroutines of the connection wait for more and nothing is on the stream between them. -/
theorem output_divided (cfg : StdioConfig) (run : List Act) {s : NetRPC}
    (hrun : exec (step cfg) init run = some s) (ch : StdStream) :
    ∃ chunks : List (Nat × ByteString),
      (chunks.map Prod.snd).flatten ++ s.unread ch = printed ch run ∧
      (∀ x ∈ chunks, x.1 < s.conns.length) ∧
      ∀ c conn, s.conns[c]? = some conn →
        conn.written ch <+: share chunks c ∧
        (conn.synced ch = .reading → conn.sent ch = .reading → conn.flight ch = [] →
          conn.written ch = share chunks c) := by
  have hdivided : Divided s :=
    exec_invariant_of_step (fun _ _ _ h hstep => h.next (next_of_step hstep)) divided_init hrun
  refine ⟨s.chunks ch, ?_, hdivided.known ch, fun c conn hc => ?_⟩
  · have hcontent := content_of_exec hrun ch
    simpa [content, init] using hcontent
  · have hcarries := (hdivided.conns c conn hc).2.carries ch
    refine ⟨hcarries.begins, fun hsynced hsent hflight => ?_⟩
    have hwhole := hcarries.whole (by simp [hsynced]) (by simp [hsent])
    simpa [hsynced, hsent, hflight] using hwhole

/-- The plugin prints on both streams to one host, and the host reads stdout in two pieces. -/
def printing : List Act :=
  connected ++
    [.print .out [104, 105], .print .err [33], .copyRead 0 .err 1, .copyRead 0 .out 2,
      .conn 0 (.send .out 2 true), .conn 0 (.receive .out 1), .conn 0 (.write .out 1 true),
      .conn 0 (.receive .out 1), .conn 0 (.write .out 1 true)]

theorem output_divided_printing :
    ∃ s, exec (step allStdio) init printing = some s ∧
      ∃ chunks : List (Nat × ByteString),
        (chunks.map Prod.snd).flatten = [104, 105] ∧ share chunks 0 = [104, 105] := by
  obtain ⟨chunks, hprinted, -, hconns⟩ := output_divided allStdio printing rfl .out
  obtain ⟨-, hwritten⟩ := hconns 0 _ rfl
  refine ⟨_, rfl, chunks, ?_, (hwritten rfl rfl rfl).symm⟩
  change (chunks.map Prod.snd).flatten ++ [] = [104, 105] at hprinted
  rwa [List.append_nil] at hprinted

end NetRPC

end GoPlugin
