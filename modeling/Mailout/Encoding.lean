import Mailout.Dataplane
import Mailout.Go.Json

/-!
# The configuration as a file

The operator writes the configuration with `yaml.Marshal` and the dataplane reads it with
`yaml.UnmarshalStrict`: the JSON tags of every struct of `Config`, and the two methods that make a
`Duration` a text. `configCodec` is both directions.

`configCodec_reads` says what comes out of the file for what went in: the configuration itself, except that
a string that is not UTF-8 is changed (`DataplaneConfig.received`). Credentials are the strings this can
happen to, since they are copied out of Secrets byte by byte.
-/

namespace Mailout

open Go

/-! ## Scalars -/

/-- `Duration.MarshalJSON` and `Duration.UnmarshalJSON`. `null` is unmarshalled into the empty string,
which is no duration. -/
def durationCodec : Codec Int where
  zero := 0
  enc d := .str (formatDuration d)
  dec
    | .str s, _ =>
      match parseDuration s with
      | .ok d => .ok d
      | .error e => .error (.duration s e)
    | .null, _ => .error (.duration [] .invalid)
    | .num s, _ =>
      match atoi s with
      | some n => .ok n
      | none => .error .mismatch
    | _, _ => .error .mismatch

/-- The mode a text is read as. -/
def ModeSetting.ofText (text : Bytes) : ModeSetting :=
  if text = [] then .unset
  else if text = TLSMode.text .startTLS then .mode .startTLS
  else if text = TLSMode.text .implicit then .mode .implicit
  else if text = TLSMode.text .none then .mode .none
  else .other text

/-- A `TLSMode`, which is a string. -/
def modeCodec : Codec ModeSetting where
  zero := .unset
  enc m := stringCodec.enc m.text
  dec v cur := (stringCodec.dec v cur.text).map ModeSetting.ofText

/-! ## Structs -/

def listenerCodec : Codec Listener :=
  Fields.struct
    (.always (lit "name") stringCodec <|
      .always (lit "addr") stringCodec <|
      .always (lit "mode") modeCodec .nil)
    (fun l => (l.name, l.addr, l.mode, ()))
    (fun (name, addr, mode, _) => ⟨name, addr, mode⟩)

def certificateCodec : Codec CertificateRef :=
  Fields.struct
    (.omitEmpty (lit "name") stringCodec <|
      .omitEmpty (lit "certFile") stringCodec <|
      .omitEmpty (lit "keyFile") stringCodec <|
      .omitEmpty (lit "certPEM") stringCodec <|
      .omitEmpty (lit "keyPEM") stringCodec .nil)
    (fun c => (c.name, c.certFile, c.keyFile, c.certPEM, c.keyPEM, ()))
    (fun (name, certFile, keyFile, certPEM, keyPEM, _) => ⟨name, certFile, keyFile, certPEM, keyPEM⟩)

def tlsCodec : Codec TLSConfig :=
  Fields.struct
    (.always (lit "certificates") (listCodec certificateCodec) <|
      .omitEmpty (lit "defaultCertificate") stringCodec .nil)
    (fun t => (t.certificates, t.defaultCertificate, ()))
    (fun (certificates, defaultCertificate, _) => ⟨certificates, defaultCertificate⟩)

def upstreamCodec : Codec Upstream :=
  Fields.struct
    (.always (lit "host") stringCodec <|
      .always (lit "port") intCodec <|
      .always (lit "tls") modeCodec <|
      .omitEmpty (lit "insecureSkipVerify") boolCodec <|
      .omitEmpty (lit "rootCAPEM") stringCodec <|
      .omitEmpty (lit "username") stringCodec <|
      .omitEmpty (lit "password") stringCodec <|
      .omitEmpty (lit "timeout") durationCodec .nil)
    (fun u => (u.host, u.port, u.tls, u.insecureSkipVerify, u.rootCAPEM, u.username, u.password,
      u.timeout, ()))
    (fun (host, port, tls, insecureSkipVerify, rootCAPEM, username, password, timeout, _) =>
      ⟨host, port, tls, insecureSkipVerify, rootCAPEM, username, password, timeout⟩)

def accountCodec : Codec Account :=
  Fields.struct
    (.always (lit "username") stringCodec <|
      .always (lit "passwordHash") stringCodec <|
      .omitEmpty (lit "disabled") boolCodec <|
      .omitEmpty (lit "allowedSenders") (listCodec stringCodec) <|
      .omitEmpty (lit "skipHeaderFromCheck") boolCodec .nil)
    (fun a => (a.username, a.passwordHash, a.disabled, a.allowedSenders, a.skipHeaderFromCheck, ()))
    (fun (username, passwordHash, disabled, allowedSenders, skipHeaderFromCheck, _) =>
      ⟨username, passwordHash, disabled, allowedSenders, skipHeaderFromCheck⟩)

def milterCodec : Codec MilterConfig :=
  Fields.struct
    (.always (lit "name") stringCodec <|
      .always (lit "address") stringCodec <|
      .omitEmpty (lit "failOpen") boolCodec <|
      .omitEmpty (lit "timeout") durationCodec .nil)
    (fun m => (m.name, m.address, m.failOpen, m.timeout, ()))
    (fun (name, address, failOpen, timeout, _) => ⟨name, address, failOpen, timeout⟩)

def dkimCodec : Codec DKIMKey :=
  Fields.struct
    (.always (lit "domain") stringCodec <|
      .always (lit "selector") stringCodec <|
      .omitEmpty (lit "privateKeyPEM") stringCodec <|
      .omitEmpty (lit "privateKeyFile") stringCodec <|
      .omitEmpty (lit "headerKeys") (listCodec stringCodec) .nil)
    (fun k => (k.domain, k.selector, k.privateKeyPEM, k.privateKeyFile, k.headerKeys, ()))
    (fun (domain, selector, privateKeyPEM, privateKeyFile, headerKeys, _) =>
      ⟨domain, selector, privateKeyPEM, privateKeyFile, headerKeys⟩)

def storeCodec : Codec RateLimitStore :=
  Fields.struct
    (.always (lit "addresses") (listCodec stringCodec) <|
      .omitEmpty (lit "masterName") stringCodec <|
      .omitEmpty (lit "db") intCodec <|
      .omitEmpty (lit "username") stringCodec <|
      .omitEmpty (lit "password") stringCodec <|
      .omitEmpty (lit "sentinelUsername") stringCodec <|
      .omitEmpty (lit "sentinelPassword") stringCodec <|
      .omitEmpty (lit "tls") boolCodec <|
      .omitEmpty (lit "insecureSkipVerify") boolCodec <|
      .omitEmpty (lit "rootCAPEM") stringCodec <|
      .omitEmpty (lit "timeout") durationCodec .nil)
    (fun s => (s.addresses, s.masterName, s.db, s.username, s.password, s.sentinelUsername,
      s.sentinelPassword, s.tls, s.insecureSkipVerify, s.rootCAPEM, s.timeout, ()))
    (fun (addresses, masterName, db, username, password, sentinelUsername, sentinelPassword, tls,
        insecureSkipVerify, rootCAPEM, timeout, _) =>
      ⟨addresses, masterName, db, username, password, sentinelUsername, sentinelPassword, tls,
        insecureSkipVerify, rootCAPEM, timeout⟩)

def rateLimitCodec : Codec RateLimitConfig :=
  Fields.struct
    (.always (lit "store") storeCodec <|
      .omitEmpty (lit "messagesPerMinute") intCodec <|
      .omitEmpty (lit "recipientsPerMinute") intCodec .nil)
    (fun r => (r.store, r.messagesPerMinute, r.recipientsPerMinute, ()))
    (fun (store, messagesPerMinute, recipientsPerMinute, _) =>
      ⟨store, messagesPerMinute, recipientsPerMinute⟩)

def limitsCodec : Codec Limits :=
  Fields.struct
    (.omitEmpty (lit "maxMessageBytes") intCodec <|
      .omitEmpty (lit "maxRecipients") intCodec <|
      .omitEmpty (lit "readTimeout") durationCodec <|
      .omitEmpty (lit "writeTimeout") durationCodec <|
      .omitEmpty (lit "maxLineLength") intCodec <|
      .omitEmpty (lit "maxConnections") intCodec <|
      .omitEmpty (lit "spoolDir") stringCodec <|
      .omitEmpty (lit "spoolThreshold") intCodec .nil)
    (fun l => (l.maxMessageBytes, l.maxRecipients, l.readTimeout, l.writeTimeout, l.maxLineLength,
      l.maxConnections, l.spoolDir, l.spoolThreshold, ()))
    (fun (maxMessageBytes, maxRecipients, readTimeout, writeTimeout, maxLineLength, maxConnections,
        spoolDir, spoolThreshold, _) =>
      ⟨maxMessageBytes, maxRecipients, readTimeout, writeTimeout, maxLineLength, maxConnections,
        spoolDir, spoolThreshold⟩)

/-- `MetricsConfig`, of which the model has the token. -/
def metricsCodec : Codec Bytes :=
  Fields.struct (.omitEmpty (lit "token") stringCodec .nil) (fun token => (token, ()))
    (fun (token, _) => token)

/-- `Config`. A struct is never empty, so `omitempty` does not leave `metrics` out. -/
def configCodec : Codec DataplaneConfig :=
  Fields.struct
    (.always (lit "hostname") stringCodec <|
      .always (lit "listeners") (listCodec listenerCodec) <|
      .always (lit "tls") tlsCodec <|
      .always (lit "upstream") upstreamCodec <|
      .always (lit "accounts") (listCodec accountCodec) <|
      .omitEmpty (lit "milters") (listCodec milterCodec) <|
      .omitEmpty (lit "dkim") (listCodec dkimCodec) <|
      .omitEmpty (lit "rateLimit") (pointerCodec rateLimitCodec) <|
      .always (lit "limits") limitsCodec <|
      .always (lit "metrics") metricsCodec .nil)
    (fun c => (c.hostname, c.listeners, c.tls, c.upstream, c.accounts, c.milters, c.dkim, c.rateLimit,
      c.limits, c.metricsToken, ()))
    (fun (hostname, listeners, tls, upstream, accounts, milters, dkim, rateLimit, limits, metricsToken,
        _) =>
      ⟨hostname, listeners, tls, upstream, accounts, milters, dkim, rateLimit, limits, metricsToken⟩)

/-! ## What is read -/

/-- A mode as it is read back. -/
def ModeSetting.received (m : ModeSetting) : ModeSetting := .ofText (coerce m.text)

def Listener.received (l : Listener) : Listener := ⟨coerce l.name, coerce l.addr, l.mode.received⟩

def CertificateRef.received (c : CertificateRef) : CertificateRef :=
  ⟨coerce c.name, coerce c.certFile, coerce c.keyFile, coerce c.certPEM, coerce c.keyPEM⟩

def TLSConfig.received (t : TLSConfig) : TLSConfig :=
  ⟨t.certificates.map CertificateRef.received, coerce t.defaultCertificate⟩

def Upstream.received (u : Upstream) : Upstream :=
  { u with
    host := coerce u.host
    tls := u.tls.received
    rootCAPEM := coerce u.rootCAPEM
    username := coerce u.username
    password := coerce u.password }

def Account.received (a : Account) : Account :=
  { a with
    username := coerce a.username
    passwordHash := coerce a.passwordHash
    allowedSenders := a.allowedSenders.map coerce }

def MilterConfig.received (m : MilterConfig) : MilterConfig :=
  { m with name := coerce m.name, address := coerce m.address }

def DKIMKey.received (k : DKIMKey) : DKIMKey :=
  ⟨coerce k.domain, coerce k.selector, coerce k.privateKeyPEM, coerce k.privateKeyFile,
    k.headerKeys.map coerce⟩

def RateLimitStore.received (s : RateLimitStore) : RateLimitStore :=
  { s with
    addresses := s.addresses.map coerce
    masterName := coerce s.masterName
    username := coerce s.username
    password := coerce s.password
    sentinelUsername := coerce s.sentinelUsername
    sentinelPassword := coerce s.sentinelPassword
    rootCAPEM := coerce s.rootCAPEM }

def RateLimitConfig.received (r : RateLimitConfig) : RateLimitConfig :=
  { r with store := r.store.received }

def Limits.received (l : Limits) : Limits := { l with spoolDir := coerce l.spoolDir }

/-- The configuration the dataplane has when the operator wrote this one: every string as JSON can say
it. -/
def DataplaneConfig.received (c : DataplaneConfig) : DataplaneConfig where
  hostname := coerce c.hostname
  listeners := c.listeners.map Listener.received
  tls := c.tls.received
  upstream := c.upstream.received
  accounts := c.accounts.map Account.received
  milters := c.milters.map MilterConfig.received
  dkim := c.dkim.map DKIMKey.received
  rateLimit := c.rateLimit.map RateLimitConfig.received
  limits := c.limits.received
  metricsToken := coerce c.metricsToken

/-- The numbers of a configuration are `int64`. -/
structure DataplaneConfig.Fits (c : DataplaneConfig) : Prop where
  port : FitsInt64 c.upstream.port
  timeout : FitsInt64 c.upstream.timeout
  milters : ∀ m ∈ c.milters, FitsInt64 m.timeout
  rateLimit : ∀ r ∈ c.rateLimit, FitsInt64 r.messagesPerMinute ∧ FitsInt64 r.recipientsPerMinute ∧
    FitsInt64 r.store.db ∧ FitsInt64 r.store.timeout
  sizes : FitsInt64 c.limits.maxMessageBytes ∧ FitsInt64 c.limits.spoolThreshold
  counts : FitsInt64 c.limits.maxRecipients ∧ FitsInt64 c.limits.maxLineLength ∧
    FitsInt64 c.limits.maxConnections
  timeouts : FitsInt64 c.limits.readTimeout ∧ FitsInt64 c.limits.writeTimeout

/-- A duration is written as a text, and the parser reads that text back (`parseDuration_formatDuration`).
-/
theorem durationCodec_reads {d : Int} (h : FitsInt64 d) : durationCodec.Reads d d := by
  have hread := parseDuration_formatDuration h.1 h.2
  show durationCodec.dec (.str (formatDuration d)) 0 = .ok d
  simp only [durationCodec, hread]

/-- A mode is read back as the string that it was written as, known or not. -/
theorem modeCodec_reads (m : ModeSetting) : modeCodec.Reads m m.received := rfl

/-- A listener, field by field. -/
theorem listenerCodec_reads (l : Listener) : listenerCodec.Reads l l.received := by
  unfold listenerCodec
  exact Fields.Reads.struct (by decide) rfl
    (.always (stringCodec_reads _) <| .always (stringCodec_reads _) <| .always (modeCodec_reads _) .nil) rfl

/-- A certificate, field by field. -/
theorem certificateCodec_reads (c : CertificateRef) : certificateCodec.Reads c c.received := by
  unfold certificateCodec
  exact Fields.Reads.struct (by decide) rfl
    (.omitString <| .omitString <| .omitString <| .omitString <| .omitString .nil) rfl

/-- The certificates, in their order. -/
theorem tlsCodec_reads (t : TLSConfig) : tlsCodec.Reads t t.received := by
  unfold tlsCodec
  exact Fields.Reads.struct (by decide) rfl
    (.always (listCodec_reads fun c _ => certificateCodec_reads c) <| .omitString .nil) rfl

/-- The upstream server. Its port and timeout have to fit an `int64`, as the fields of the structure do. -/
theorem upstreamCodec_reads {u : Upstream} (hport : FitsInt64 u.port) (htimeout : FitsInt64 u.timeout) :
    upstreamCodec.Reads u u.received := by
  unfold upstreamCodec
  exact Fields.Reads.struct (by decide) rfl
    (.always (stringCodec_reads _) <| .always (intCodec_reads hport) <| .always (modeCodec_reads _) <|
      .omitEmpty (boolCodec_reads _) id <| .omitString <| .omitString <| .omitString <|
      .omitEmpty (durationCodec_reads htimeout) id .nil) rfl

/-- An account, with its senders; a flag that is not set is left out and read as not set. -/
theorem accountCodec_reads (a : Account) : accountCodec.Reads a a.received := by
  unfold accountCodec
  exact Fields.Reads.struct (by decide) rfl
    (.always (stringCodec_reads _) <| .always (stringCodec_reads _) <|
      .omitEmpty (boolCodec_reads _) id <| .omitList (fun s _ => stringCodec_reads s) <|
      .omitEmpty (boolCodec_reads _) id .nil) rfl

/-- A filter, field by field. -/
theorem milterCodec_reads {m : MilterConfig} (h : FitsInt64 m.timeout) :
    milterCodec.Reads m m.received := by
  unfold milterCodec
  exact Fields.Reads.struct (by decide) rfl
    (.always (stringCodec_reads _) <| .always (stringCodec_reads _) <|
      .omitEmpty (boolCodec_reads _) id <| .omitEmpty (durationCodec_reads h) id .nil) rfl

/-- The store of the limits, field by field. -/
theorem storeCodec_reads {s : RateLimitStore} (hdb : FitsInt64 s.db) (htimeout : FitsInt64 s.timeout) :
    storeCodec.Reads s s.received := by
  unfold storeCodec
  exact Fields.Reads.struct (by decide) rfl
    (.always (listCodec_reads fun s _ => stringCodec_reads s) <| .omitString <|
      .omitEmpty (intCodec_reads hdb) id <| .omitString <| .omitString <| .omitString <| .omitString <|
      .omitEmpty (boolCodec_reads _) id <| .omitEmpty (boolCodec_reads _) id <| .omitString <|
      .omitEmpty (durationCodec_reads htimeout) id .nil) rfl

/-- The limits with their store. -/
theorem rateLimitCodec_reads {r : RateLimitConfig} (hmessages : FitsInt64 r.messagesPerMinute)
    (hrecipients : FitsInt64 r.recipientsPerMinute) (hdb : FitsInt64 r.store.db)
    (htimeout : FitsInt64 r.store.timeout) : rateLimitCodec.Reads r r.received := by
  unfold rateLimitCodec
  exact Fields.Reads.struct (by decide) rfl
    (.always (storeCodec_reads hdb htimeout) <| .omitEmpty (intCodec_reads hmessages) id <|
      .omitEmpty (intCodec_reads hrecipients) id .nil) rfl

/-- A DKIM key, field by field. -/
theorem dkimCodec_reads (k : DKIMKey) : dkimCodec.Reads k k.received := by
  unfold dkimCodec
  exact Fields.Reads.struct (by decide) rfl
    (.always (stringCodec_reads _) <| .always (stringCodec_reads _) <| .omitString <| .omitString <|
      .omitList (fun s _ => stringCodec_reads s) .nil) rfl

/-- The limits of a message. What is zero is left out and read as zero. -/
theorem limitsCodec_reads {c : DataplaneConfig} (h : c.Fits) :
    limitsCodec.Reads c.limits c.limits.received := by
  unfold limitsCodec
  exact Fields.Reads.struct (by decide) rfl
    (.omitEmpty (intCodec_reads h.sizes.1) id <| .omitEmpty (intCodec_reads h.counts.1) id <|
      .omitEmpty (durationCodec_reads h.timeouts.1) id <|
      .omitEmpty (durationCodec_reads h.timeouts.2) id <|
      .omitEmpty (intCodec_reads h.counts.2.1) id <| .omitEmpty (intCodec_reads h.counts.2.2) id <|
      .omitString <| .omitEmpty (intCodec_reads h.sizes.2) id .nil) rfl

/-- The metrics, of which the token is what is set. -/
theorem metricsCodec_reads (token : Bytes) : metricsCodec.Reads token (coerce token) := by
  unfold metricsCodec
  exact Fields.Reads.struct (by decide) rfl (.omitString .nil) rfl

/-- Limits that are not set stay unset. -/
theorem rateLimitPointer_reads {c : DataplaneConfig} (h : c.Fits) :
    (pointerCodec rateLimitCodec).Reads c.rateLimit (c.rateLimit.map RateLimitConfig.received) := by
  have hfits := h.rateLimit
  cases hr : c.rateLimit with
  | none => exact pointerCodec_reads_none _
  | some r =>
    obtain ⟨hmessages, hrecipients, hdb, htimeout⟩ := hfits r hr
    exact pointerCodec_reads_some rfl (rateLimitCodec_reads hmessages hrecipients hdb htimeout)

/-- **A configuration comes out of the file as it went in**, every string as JSON can say it. -/
theorem configCodec_reads {c : DataplaneConfig} (h : c.Fits) : configCodec.Reads c c.received := by
  unfold configCodec
  exact Fields.Reads.struct (by decide) rfl
    (.always (stringCodec_reads _) <| .always (listCodec_reads fun l _ => listenerCodec_reads l) <|
      .always (tlsCodec_reads _) <| .always (upstreamCodec_reads h.port h.timeout) <|
      .always (listCodec_reads fun a _ => accountCodec_reads a) <|
      .omitList (fun m hm => milterCodec_reads (h.milters m hm)) <|
      .omitList (fun k _ => dkimCodec_reads k) <|
      .omitEmpty (rateLimitPointer_reads h) Option.map_eq_none_iff.mpr <|
      .always (limitsCodec_reads h) <| .always (metricsCodec_reads _) .nil) rfl

end Mailout
