import GoPlugin.Handshake
import GoPlugin.RawBase64

/-!
# What the handshake line conveys

The fields that `Start` takes from the plugin's line, and what is left of them when it reads the
line that `Serve` prints.  The line has no escapes: everything comes back where the address has
neither a bar nor a line break, and there only.
-/

namespace GoPlugin

open ByteString GoMap

/-- The fields of the line, as `Start` takes them. -/
structure Announcement where
  core : ByteString
  version : ByteString
  network : ByteString
  address : ByteString
  protocol : ByteString
  cert : Option ByteString         -- a field of more than 50 bytes
  multiplex : Option ByteString
deriving DecidableEq, Repr

/-- A field of at most 50 bytes is not taken for a certificate. -/
def certField (field : Option ByteString) : Option ByteString :=
  field.filter fun cert => 50 < cert.length

/-- The fields of a line; `none` where there are fewer than four. -/
def announcement (line : ByteString) : Option Announcement :=
  match split bar (trimSpace line) with
  | core :: version :: network :: address :: rest =>
      some ⟨core, version, network, address, rest[0]?.getD Protocol.netRPC.text,
        certField rest[1]?, rest[2]?⟩
  | _ => none

/-- The fields of the first line that the plugin writes to its standard output. -/
def announcementOn (stdout : ByteString) : Option Announcement :=
  (scanLine stdout).bind announcement

/-- What `Start` does with the fields. -/
def Announcement.outcome (c : ClientConfig) (order : RangeOrder Int64 PluginSet)
    (deps : HandshakeDeps) (a : Announcement) : Outcome Started :=
  (checkCore a.core).bind fun _ =>
    (checkVersion c order a.version).bind fun (version, plugins) =>
      (resolveAddr deps a.network a.address).bind fun addr =>
        if c.allowedProtocols.contains a.protocol then
          (loadServerCert c deps a.cert).bind fun rootCA =>
            (checkMultiplex c a.protocol a.multiplex).bind fun _ =>
              .ok ⟨version, plugins, addr, a.protocol, rootCA⟩
        else .error (.unsupportedProtocol a.protocol)

theorem loadServerCert_certField (c : ClientConfig) (deps : HandshakeDeps)
    (field : Option ByteString) :
    loadServerCert c deps (certField field) = loadServerCert c deps field := by
  cases field with
  | none => rfl
  | some cert =>
      by_cases hlen : 50 < cert.length
      · simp [certField, Option.filter, hlen]
      · simp [certField, Option.filter, loadServerCert, hlen]

/-- The handshake depends on the line through these fields only. -/
theorem handshake_eq_outcome (c : ClientConfig) (order : RangeOrder Int64 PluginSet)
    (deps : HandshakeDeps) (line : ByteString) (read : Bool) :
    handshake c order deps line read =
      match announcement line with
      | some a => a.outcome c order deps
      | none => .error (.unrecognized (trimSpace line) read) := by
  rcases hparts : split bar (trimSpace line) with
    _ | ⟨core, _ | ⟨version, _ | ⟨network, _ | ⟨address, rest⟩⟩⟩⟩
  · simp only [handshake, announcement, hparts]
  · simp only [handshake, announcement, hparts]
  · simp only [handshake, announcement, hparts]
  · simp only [handshake, announcement, hparts]
  · simp only [handshake, announcement, hparts, Announcement.outcome, loadServerCert_certField]

/-! ### What comes back -/

/-- The fields give back what was printed. -/
structure Announcement.Conveys (a : Announcement) (version : Int64) (addr : Addr)
    (proto : Protocol) (cert : Option ByteString) (multiplexSet : Bool) : Prop where
  core : atoi a.core = some coreProtocolVersion
  version : atoi a.version = some version
  network : a.network = addr.network.text
  address : a.address = addr.address
  protocol : a.protocol = proto.text
  cert : a.cert.map base64Decode = cert.map some
  multiplex : a.multiplex.map parseBool = if multiplexSet then some (some true) else none

/-- The certificate field: base64, or nothing. -/
def certText (cert : Option ByteString) : ByteString := (cert.map base64Encode).getD []

theorem mem_certText {cert : Option ByteString} {b : UInt8} (h : b ∈ certText cert) :
    printable b ∧ b ≠ bar ∧ b ≠ newline := by
  have hsymbols : ∀ n < 64, printable (base64Symbol n) ∧ base64Symbol n ≠ bar ∧
      base64Symbol n ≠ newline := by decide
  cases cert with
  | none => cases h
  | some der =>
      obtain ⟨n, hn, rfl⟩ := mem_base64Encode h
      exact hsymbols n hn

/-- Fields without bars and line breaks stand for themselves. -/
theorem fields_of_plain {s : ByteString} (hprintable : ∀ b ∈ s, printable b) (hbar : bar ∉ s)
    (hnewline : newline ∉ s) (rest : ByteString) : fields (s ++ newline :: rest) = [s] := by
  rw [fields, firstLine_append_newline hnewline, dropCR_of_printable hprintable,
    trimRight_of_printable hprintable, split_of_notMem hbar]

theorem fields_append_plain {s : ByteString} (hbar : bar ∉ s) (hnewline : newline ∉ s)
    (t : ByteString) : fields (s ++ bar :: t) = s :: fields t := by
  rw [fields_append hnewline, split_of_notMem hbar]
  rfl

section Line

variable (version : Int64) (addr : Addr) (proto : Protocol) (cert : Option ByteString)
  (multiplexSet : Bool) (rest : ByteString)

theorem plain_itoa (n : Int64) : bar ∉ itoa n ∧ newline ∉ itoa n := by
  constructor
  · intro h
    have hdigit := mem_itoa h
    revert hdigit
    decide
  · intro h
    have hdigit := mem_itoa h
    revert hdigit
    decide

theorem fields_protocolLine (hbar : bar ∉ addr.address) (hnewline : newline ∉ addr.address) :
    fields (protocolLine version addr proto (certText cert) multiplexSet ++ newline :: rest) =
      [itoa coreProtocolVersion, itoa version, addr.network.text, addr.address, proto.text,
        certText cert] ++ if multiplexSet then [ascii "true"] else [] := by
  have hcore := plain_itoa coreProtocolVersion
  have hversion := plain_itoa version
  have hnetwork : bar ∉ addr.network.text ∧ newline ∉ addr.network.text := by
    cases addr.network <;> decide
  have hproto : bar ∉ proto.text ∧ newline ∉ proto.text := by
    cases proto <;> decide
  have hcert : bar ∉ certText cert ∧ newline ∉ certText cert :=
    ⟨fun h => (mem_certText h).2.1 rfl, fun h => (mem_certText h).2.2 rfl⟩
  simp only [protocolLine, List.append_assoc, List.cons_append]
  rw [fields_append_plain hcore.1 hcore.2, fields_append_plain hversion.1 hversion.2,
    fields_append_plain hnetwork.1 hnetwork.2, fields_append_plain hbar hnewline,
    fields_append_plain hproto.1 hproto.2]
  cases multiplexSet with
  | true =>
      have hprintable : ∀ b ∈ ascii "true", printable b := by
        rw [show ascii "true" = [116, 114, 117, 101] from rfl]
        simp [printable]
      have htrue := fields_of_plain hprintable (by decide) (by decide) rest
      simp only [if_true, List.cons_append]
      rw [fields_append_plain hcert.1 hcert.2, htrue]
      rfl
  | false =>
      have hplain := fields_of_plain (fun b hb => (mem_certText hb).1) hcert.1 hcert.2 rest
      simpa using hplain

theorem newline_notMem_protocolLine (hnewline : newline ∉ addr.address) :
    newline ∉ protocolLine version addr proto (certText cert) multiplexSet := by
  have hnetwork : newline ∉ addr.network.text := by cases addr.network <;> decide
  have hproto : newline ∉ proto.text := by cases proto <;> decide
  have hcert : newline ∉ certText cert := fun h => (mem_certText h).2.2 rfl
  have hend : newline ∉ (if multiplexSet then bar :: ascii "true" else []) := by
    cases multiplexSet <;> decide
  have hbreak : newline ≠ bar := by decide
  simp only [protocolLine, List.mem_append, List.mem_cons, not_or]
  exact ⟨(plain_itoa _).2, hbreak, (plain_itoa _).2, hbreak, hnetwork, hbreak, hnewline, hbreak,
    hproto, hbreak, hcert, hend⟩

/-- The scanner finds the line. -/
theorem scanLine_protocolLine (hnewline : newline ∉ addr.address)
    (hlen : (protocolLine version addr proto (certText cert) multiplexSet).length <
      maxScanTokenSize) :
    ∃ line, scanLine
        (protocolLine version addr proto (certText cert) multiplexSet ++ newline :: rest) =
      some line ∧
      split bar (trimSpace line) = fields
        (protocolLine version addr proto (certText cert) multiplexSet ++ newline :: rest) := by
  have hplain := newline_notMem_protocolLine version addr proto cert multiplexSet hnewline
  have hscan : scanLine
      (protocolLine version addr proto (certText cert) multiplexSet ++ newline :: rest) =
        some (dropCR (protocolLine version addr proto (certText cert) multiplexSet)) := by
    rw [scanLine, firstLine_append_newline hplain, if_pos ⟨by simp, hlen⟩]
  exact ⟨_, hscan, split_trimSpace_of_scanLine ⟨49, _, rfl, by decide⟩ hscan⟩

end Line

/-- A field that was read has neither bars nor line breaks. -/
theorem plain_of_announcementOn {stdout : ByteString} {a : Announcement}
    (h : announcementOn stdout = some a) : bar ∉ a.address ∧ newline ∉ a.address := by
  obtain ⟨line, hscan, hline⟩ := Option.bind_eq_some_iff.mp h
  unfold announcement at hline
  split at hline
  · next core version network address rest hsplit =>
      cases hline
      have hmem : address ∈ split bar (trimSpace line) := by simp [hsplit]
      constructor
      · exact fun hbar => (mem_of_mem_split hmem hbar).1 rfl
      · intro hnewline
        have htrimmed := (mem_of_mem_split hmem hnewline).2
        exact newline_notMem_of_scanLine hscan (mem_of_mem_trimSpace htrimmed)
  · cases hline

/-- **What the handshake line conveys.**  Whatever follows the line that `Serve` prints, `Start`
    reads back what is in it if and only if the address has neither a bar nor a line break. -/
theorem protocolLine_conveys_iff (version : Int64) (addr : Addr) (proto : Protocol)
    (cert : Option ByteString) (hcert : ∀ der ∈ cert, 50 < (base64Encode der).length)
    (multiplexSet : Bool)
    (hlen : (protocolLine version addr proto (certText cert) multiplexSet).length <
      maxScanTokenSize) (rest : ByteString) :
    (∃ a, announcementOn
        (protocolLine version addr proto (certText cert) multiplexSet ++ newline :: rest) = some a ∧
      a.Conveys version addr proto cert multiplexSet) ↔
      bar ∉ addr.address ∧ newline ∉ addr.address := by
  constructor
  · rintro ⟨a, ha, hconveys⟩
    rw [← hconveys.address]
    exact plain_of_announcementOn ha
  · rintro ⟨hbar, hnewline⟩
    obtain ⟨line, hscan, hsplit⟩ :=
      scanLine_protocolLine version addr proto cert multiplexSet rest hnewline hlen
    rw [fields_protocolLine version addr proto cert multiplexSet rest hbar hnewline] at hsplit
    have hfields : announcement line = some ⟨itoa coreProtocolVersion, itoa version,
        addr.network.text, addr.address, proto.text, certField (some (certText cert)),
        (if multiplexSet then [ascii "true"] else [])[0]?⟩ := by
      unfold announcement
      rw [hsplit]
      rfl
    refine ⟨_, by rw [announcementOn, hscan, Option.bind_some, hfields], ?_⟩
    refine ⟨atoi_itoa coreProtocolVersion, atoi_itoa version, rfl, rfl, rfl, ?_, ?_⟩
    · cases cert with
      | none => rfl
      | some der =>
          have hlong := hcert der rfl
          simp [certField, certText, Option.filter, hlong]
    · cases multiplexSet <;> rfl

/-- An address with a space and no certificate; a line of the plugin's own follows. -/
theorem protocolLine_conveys_spaced :
    ∃ a, announcementOn (protocolLine 3 ⟨.unix, ascii "/tmp/my plugin"⟩ .grpc (certText none)
        true ++ newline :: ascii "ready") = some a ∧
      a.Conveys 3 ⟨.unix, ascii "/tmp/my plugin"⟩ .grpc none true :=
  (protocolLine_conveys_iff 3 ⟨.unix, ascii "/tmp/my plugin"⟩ .grpc none (by simp) true (by decide)
    (ascii "ready")).mpr (by decide)

end GoPlugin
