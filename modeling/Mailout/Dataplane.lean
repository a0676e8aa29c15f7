import Mailout.Go.Filepath
import Mailout.Snapshot

/-!
# The configuration of the dataplane

`internal/gateway/config.go`: the whole of `Config`, its defaults and `Validate`, which reports every
problem that would make it unservable. `Snapshot` has the part of it a session reads; `session` is
the projection. `strconv.Quote`, which the messages use, is a parameter.

`validate_ok_iff` says what a valid configuration is.
-/

namespace Mailout

open Go

/-! ## The configuration -/

/-- A `TLSMode` in a configuration: empty, one of the three, or some other text. -/
inductive ModeSetting where
  | unset
  | mode (m : TLSMode)
  | other (text : Bytes)
  deriving DecidableEq, Repr

/-- The constants of `TLSMode`. -/
def TLSMode.text : TLSMode → Bytes
  | .startTLS => lit "starttls"
  | .implicit => lit "implicit"
  | .none => lit "none"

def ModeSetting.text : ModeSetting → Bytes
  | .unset => []
  | .mode m => m.text
  | .other text => text

/-- `Listener`. -/
structure Listener where
  name : Bytes
  addr : Bytes
  mode : ModeSetting
  deriving DecidableEq, Repr

/-- `CertificateRef`. -/
structure CertificateRef where
  name : Bytes
  certFile : Bytes
  keyFile : Bytes
  certPEM : Bytes
  keyPEM : Bytes
  deriving DecidableEq, Repr

/-- `TLSConfig`. -/
structure TLSConfig where
  certificates : List CertificateRef
  defaultCertificate : Bytes
  deriving DecidableEq, Repr

/-- `Upstream`. -/
structure Upstream where
  host : Bytes
  port : Int
  tls : ModeSetting
  insecureSkipVerify : Bool
  rootCAPEM : Bytes
  username : Bytes
  password : Bytes
  timeout : Int
  deriving DecidableEq, Repr

/-- `Milter`, the configuration of a filter. -/
structure MilterConfig where
  name : Bytes
  address : Bytes
  failOpen : Bool
  timeout : Int
  deriving DecidableEq, Repr

/-- `RateLimitStore`. -/
structure RateLimitStore where
  addresses : List Bytes
  masterName : Bytes
  db : Int
  username : Bytes
  password : Bytes
  sentinelUsername : Bytes
  sentinelPassword : Bytes
  tls : Bool
  insecureSkipVerify : Bool
  rootCAPEM : Bytes
  timeout : Int
  deriving DecidableEq, Repr

/-- `RateLimit`. -/
structure RateLimitConfig where
  store : RateLimitStore
  messagesPerMinute : Int
  recipientsPerMinute : Int
  deriving DecidableEq, Repr

/-- `Limits`; zero stands for the default. -/
structure Limits where
  maxMessageBytes : Int
  maxRecipients : Int
  readTimeout : Int
  writeTimeout : Int
  maxLineLength : Int
  maxConnections : Int
  spoolDir : Bytes
  spoolThreshold : Int
  deriving DecidableEq, Repr

/-- `Config`. -/
structure DataplaneConfig where
  hostname : Bytes
  listeners : List Listener
  tls : TLSConfig
  upstream : Upstream
  accounts : List Account
  milters : List MilterConfig
  dkim : List DKIMKey
  rateLimit : Option RateLimitConfig
  limits : Limits
  metricsToken : Bytes
  deriving DecidableEq, Repr

/-- What a session reads of a filter's configuration. -/
def MilterConfig.session (m : MilterConfig) : Milter := ⟨m.name, m.failOpen⟩

/-- What a session reads of a quota's configuration. -/
def RateLimitConfig.session (r : RateLimitConfig) : RateLimit :=
  ⟨r.messagesPerMinute, r.recipientsPerMinute, r.store.timeout⟩

/-- What a session reads of a mode; a snapshot is made of a valid one only. -/
def ModeSetting.session : ModeSetting → TLSMode
  | .mode m => m
  | _ => .startTLS

/-- The part of a configuration a session reads. -/
def DataplaneConfig.session (c : DataplaneConfig) : Config where
  hostname := c.hostname
  upstreamTLS := c.upstream.tls.session
  upstreamUsername := c.upstream.username
  upstreamPassword := c.upstream.password
  milters := c.milters.map MilterConfig.session
  dkim := c.dkim
  rateLimit := c.rateLimit.map RateLimitConfig.session
  accounts := c.accounts
  spoolDir := c.limits.spoolDir
  spoolThreshold := c.limits.spoolThreshold

/-! ## Defaults -/

def defaultMaxMessageBytes : Int := 25 * 1024 * 1024
def defaultMaxRecipients : Int := 50
def defaultMaxConnections : Int := 64
def defaultMaxLineLength : Int := 8000
def defaultReadTimeout : Int := 60 * second
def defaultWriteTimeout : Int := 60 * second
def defaultUpstreamTimeout : Int := 60 * second

/-- A number, or its default where it is zero. -/
def orDefault (value default : Int) : Int := if value = 0 then default else value

def Limits.applyDefaults (l : Limits) : Limits where
  maxMessageBytes := orDefault l.maxMessageBytes defaultMaxMessageBytes
  maxRecipients := orDefault l.maxRecipients defaultMaxRecipients
  readTimeout := orDefault l.readTimeout defaultReadTimeout
  writeTimeout := orDefault l.writeTimeout defaultWriteTimeout
  maxLineLength := orDefault l.maxLineLength defaultMaxLineLength
  maxConnections := orDefault l.maxConnections defaultMaxConnections
  spoolDir := l.spoolDir
  spoolThreshold := orDefault l.spoolThreshold defaultSpoolThreshold

def Upstream.applyDefaults (u : Upstream) : Upstream :=
  { u with
    timeout := orDefault u.timeout defaultUpstreamTimeout
    port := orDefault u.port (if u.tls = .mode .implicit then 465 else 587) }

def Listener.applyDefaults (l : Listener) : Listener where
  name := if l.name = [] then l.addr else l.name
  addr := l.addr
  mode := if l.mode = .unset then .mode .startTLS else l.mode

/-- `Config.applyDefaults`. -/
def DataplaneConfig.applyDefaults (c : DataplaneConfig) : DataplaneConfig :=
  { c with
    hostname := if c.hostname = [] then lit "mailout" else c.hostname
    limits := c.limits.applyDefaults
    upstream := c.upstream.applyDefaults
    listeners := c.listeners.map Listener.applyDefaults }

/-- A session reads the same defaults. -/
theorem DataplaneConfig.session_applyDefaults (c : DataplaneConfig) :
    c.applyDefaults.session = c.session.applyDefaults := rfl

/-! ## Validation -/

section
variable (quote : Bytes → Bytes)

/-- `Milter.ParseAddress`: the network and the address to dial. -/
def MilterConfig.parseAddress (m : MilterConfig) : Except Bytes (Bytes × Bytes) :=
  if (lit "tcp://").isPrefixOf m.address then
    .ok (lit "tcp", trimPrefix (lit "tcp://") m.address)
  else if (lit "unix://").isPrefixOf m.address then
    .ok (lit "unix", trimPrefix (lit "unix://") m.address)
  else if contains m.address (lit "://") then
    .error (lit "unsupported scheme in " ++ quote m.address ++ lit ", want tcp:// or unix://")
  else if m.address = [] then .error (lit "address is required")
  else .ok (lit "tcp", m.address)

/-- What is wrong with a listener by itself. -/
def Listener.errors (i : Nat) (l : Listener) : List Bytes :=
  (if l.addr = [] then [lit "listener[" ++ formatNat i ++ lit "]: addr is required"] else []) ++
  match l.mode with
  | .mode .startTLS | .mode .implicit => []
  | mode => [lit "listener " ++ quote l.name ++ lit ": mode must be " ++
      quote (TLSMode.text .startTLS) ++ lit " or " ++ quote (TLSMode.text .implicit) ++
      lit ", got " ++ quote mode.text]

/-- The loop of `Validate` over the listeners; `seen` are the addresses before. -/
def listenerErrors : Nat → List Bytes → List Listener → List Bytes
  | _, _, [] => []
  | i, seen, l :: ls =>
    Listener.errors quote i l ++
      -- port 0 asks the kernel for a free port, so it is never a duplicate
      if (lit ":0").isSuffixOf l.addr then listenerErrors (i + 1) seen ls
      else
        (if l.addr ∈ seen then
          [lit "listener " ++ quote l.name ++ lit ": duplicate address " ++ l.addr] else []) ++
        listenerErrors (i + 1) (l.addr :: seen) ls

/-- Whether a certificate is given as files or inline. -/
def CertificateRef.complete (c : CertificateRef) : Bool :=
  (c.certFile ≠ [] && c.keyFile ≠ []) || (c.certPEM ≠ [] && c.keyPEM ≠ [])

/-- The loop of `Validate` over the certificates. -/
def certificateErrors (certs : List CertificateRef) : List Bytes :=
  (certs.mapIdx fun i cert =>
    if cert.complete then []
    else [lit "tls.certificates[" ++ formatNat i ++
      lit "]: needs certFile+keyFile or certPEM+keyPEM"]).flatten

/-- What `Validate` says of the upstream's mode. -/
def Upstream.modeErrors (u : Upstream) : List Bytes :=
  match u.tls with
  | .mode _ => []
  | tls => [lit "upstream.tls must be one of " ++ quote (TLSMode.text .startTLS) ++ lit ", " ++
      quote (TLSMode.text .implicit) ++ lit ", " ++ quote (TLSMode.text .none) ++ lit "; got " ++
      quote tls.text]

/-- What `Validate` says of the quota. -/
def rateLimitErrors : Option RateLimitConfig → List Bytes
  | none => []
  | some r =>
    (if r.store.addresses.length = 0 then [lit "rateLimit.store.addresses is required"] else []) ++
    (if r.store.insecureSkipVerify ∧ ¬ r.store.tls then
      [lit "rateLimit.store.insecureSkipVerify requires tls: true; " ++
        lit "without TLS the connection carries the store password in clear"] else [])

/-- The loop of `Validate` over the filters. -/
def milterErrors (milters : List MilterConfig) : List Bytes :=
  (milters.mapIdx fun i m =>
    match m.parseAddress quote with
    | .ok _ => []
    | .error err => [lit "milters[" ++ formatNat i ++ lit "] (" ++ m.name ++ lit "): " ++ err]).flatten

/-- The problems `Validate` collects. -/
def DataplaneConfig.errors (c : DataplaneConfig) : List Bytes :=
  (if c.listeners.length = 0 then [lit "no listener configured"] else []) ++
  listenerErrors quote 0 [] c.listeners ++
  (if c.tls.certificates.length = 0 then [lit "tls: at least one certificate is required"] else []) ++
  certificateErrors c.tls.certificates ++
  (if c.upstream.host = [] then [lit "upstream.host is required"] else []) ++
  c.upstream.modeErrors quote ++
  rateLimitErrors c.rateLimit ++
  milterErrors quote c.milters

/-- `Config.Validate`. -/
def DataplaneConfig.validate (c : DataplaneConfig) : Except Bytes Unit :=
  match c.errors quote with
  | [] => .ok ()
  | errs => .error (lit "invalid gateway configuration:\n  - " ++ join (lit "\n  - ") errs)

/-! ## What is valid -/

/-- A listener whose port is chosen in the configuration. -/
def Listener.fixed (l : Listener) : Bool := ! (lit ":0").isSuffixOf l.addr

/-- A listener by itself. -/
structure Listener.Sound (l : Listener) : Prop where
  addr : l.addr ≠ []
  mode : l.mode = .mode .startTLS ∨ l.mode = .mode .implicit

/-- A configuration that can be served, whatever its accounts. -/
structure DataplaneConfig.Valid (c : DataplaneConfig) : Prop where
  listeners : c.listeners ≠ []
  listener : ∀ l ∈ c.listeners, l.Sound
  addresses : ((c.listeners.filter Listener.fixed).map Listener.addr).Nodup
  certificates : c.tls.certificates ≠ []
  certificate : ∀ cert ∈ c.tls.certificates, cert.complete = true
  host : c.upstream.host ≠ []
  mode : ∃ m, c.upstream.tls = .mode m
  store : ∀ r ∈ c.rateLimit, r.store.addresses ≠ [] ∧
    (r.store.insecureSkipVerify = true → r.store.tls = true)
  milters : ∀ m ∈ c.milters, ∃ address, m.parseAddress quote = .ok address

variable {quote}

/-- A listener has no errors exactly if it has an address and a mode that a listener may have. -/
theorem Listener.errors_eq_nil {i : Nat} {l : Listener} : l.errors quote i = [] ↔ l.Sound := by
  have hmode : (match l.mode with
      | .mode .startTLS | .mode .implicit => []
      | mode => [lit "listener " ++ quote l.name ++ lit ": mode must be " ++
          quote (TLSMode.text .startTLS) ++ lit " or " ++ quote (TLSMode.text .implicit) ++
          lit ", got " ++ quote mode.text]) = [] ↔
      l.mode = .mode .startTLS ∨ l.mode = .mode .implicit := by
    rcases l.mode with _ | ⟨_ | _ | _⟩ | _ <;> simp
  rw [Listener.errors, List.append_eq_nil_iff, hmode]
  refine ⟨fun h => ⟨fun haddr => ?_, h.2⟩, fun h => ⟨if_neg h.addr, h.mode⟩⟩
  have hnil := h.1
  rw [if_pos haddr] at hnil
  cases hnil

/-- The loop over the listeners finds nothing if each is sound and no address is taken twice. -/
theorem listenerErrors_eq_nil {i : Nat} {seen : List Bytes} {ls : List Listener} :
    listenerErrors quote i seen ls = [] ↔ (∀ l ∈ ls, l.Sound) ∧
      ((ls.filter Listener.fixed).map Listener.addr).Nodup ∧
      ∀ l ∈ ls.filter Listener.fixed, l.addr ∉ seen := by
  induction ls generalizing i seen with
  | nil => simp [listenerErrors]
  | cons l ls ih =>
    rw [listenerErrors, List.append_eq_nil_iff, Listener.errors_eq_nil, List.forall_mem_cons,
      and_assoc]
    refine and_congr_right fun _ => ?_
    by_cases hfree : (lit ":0").isSuffixOf l.addr = true
    · have hfixed : l.fixed = false := by rw [Listener.fixed, hfree]; rfl
      rw [if_pos hfree, ih, List.filter_cons_of_neg (by simp [hfixed])]
    · have hfixed : l.fixed = true := by rw [Listener.fixed, Bool.eq_false_iff.mpr hfree]; rfl
      have hseen : (if l.addr ∈ seen then
          [lit "listener " ++ quote l.name ++ lit ": duplicate address " ++ l.addr] else []) = [] ↔
          l.addr ∉ seen := by
        split_ifs with h <;> simp [h]
      rw [if_neg hfree, List.append_eq_nil_iff, hseen, ih, List.filter_cons_of_pos hfixed, List.forall_mem_cons,
        List.map_cons, List.nodup_cons]
      simp only [List.mem_map, List.mem_cons, not_or]
      constructor
      · rintro ⟨hl, hsound, hnodup, hnew⟩
        refine ⟨hsound, ⟨?_, hnodup⟩, hl, fun k hk => (hnew k hk).2⟩
        rintro ⟨k, hk, heq⟩
        exact (hnew k hk).1 heq
      · rintro ⟨hsound, ⟨hl, hnodup⟩, hnew, hrest⟩
        exact ⟨hnew, hsound, hnodup, fun k hk => ⟨fun heq => hl ⟨k, hk, heq⟩, hrest k hk⟩⟩

/-- A list of reports, one for each element, is empty if every element's is. -/
theorem mapIdx_flatten_eq_nil {α β : Type} {f : Nat → α → List β} {P : α → Prop} {xs : List α}
    (h : ∀ i x, f i x = [] ↔ P x) : (xs.mapIdx f).flatten = [] ↔ ∀ x ∈ xs, P x := by
  induction xs generalizing f with
  | nil => simp
  | cons x xs ih =>
    rw [List.mapIdx_cons, List.flatten_cons, List.append_eq_nil_iff, h, List.forall_mem_cons,
      ih fun i y => h (i + 1) y]

/-- Certificates have none if each of them has both of its files. -/
theorem certificateErrors_eq_nil {certs : List CertificateRef} :
    certificateErrors certs = [] ↔ ∀ cert ∈ certs, cert.complete = true := by
  refine mapIdx_flatten_eq_nil fun i cert => ?_
  split_ifs with h <;> simp [h]

/-- Filters have none if their addresses can be parsed. -/
theorem milterErrors_eq_nil {milters : List MilterConfig} :
    milterErrors quote milters = [] ↔
      ∀ m ∈ milters, ∃ address, m.parseAddress quote = .ok address := by
  refine mapIdx_flatten_eq_nil fun i m => ?_
  cases m.parseAddress quote with
  | error err => simp
  | ok address => simp

/-- Limits have none if the store has an address, and does not skip a verification that there is not. -/
theorem rateLimitErrors_eq_nil {r : Option RateLimitConfig} :
    rateLimitErrors r = [] ↔ ∀ r' ∈ r, r'.store.addresses ≠ [] ∧
      (r'.store.insecureSkipVerify = true → r'.store.tls = true) := by
  cases r with
  | none => simp [rateLimitErrors]
  | some r =>
    rw [rateLimitErrors, List.append_eq_nil_iff]
    simp

/-- The upstream server has none if its mode is a known one. -/
theorem Upstream.modeErrors_eq_nil {u : Upstream} :
    u.modeErrors quote = [] ↔ ∃ m, u.tls = .mode m := by
  unfold Upstream.modeErrors
  cases u.tls <;> simp

/-- **`Validate` accepts what is valid**, and nothing else. -/
theorem DataplaneConfig.validate_ok_iff {c : DataplaneConfig} :
    c.validate quote = .ok () ↔ c.Valid quote := by
  have herrors : c.validate quote = .ok () ↔ c.errors quote = [] := by
    unfold DataplaneConfig.validate
    cases c.errors quote <;> simp
  rw [herrors, DataplaneConfig.errors]
  simp only [List.append_eq_nil_iff, listenerErrors_eq_nil, certificateErrors_eq_nil,
    Upstream.modeErrors_eq_nil, rateLimitErrors_eq_nil, milterErrors_eq_nil,
    List.length_eq_zero_iff, ite_eq_right_iff, reduceCtorEq, imp_false]
  constructor
  · rintro ⟨⟨⟨⟨⟨⟨⟨hls, hsound, hnodup, -⟩, hcerts⟩, hcert⟩, hhost⟩, hmode⟩, hstore⟩, hmilters⟩
    exact ⟨hls, hsound, hnodup, hcerts, hcert, hhost, hmode, hstore, hmilters⟩
  · intro h
    exact ⟨⟨⟨⟨⟨⟨⟨h.listeners, h.listener, h.addresses, fun _ _ => List.not_mem_nil⟩, h.certificates⟩,
      h.certificate⟩, h.host⟩, h.mode⟩, h.store⟩, h.milters⟩

/-- The defaults do not make a valid configuration invalid. -/
theorem DataplaneConfig.Valid.applyDefaults {c : DataplaneConfig} (h : c.Valid quote) :
    c.applyDefaults.Valid quote where
  listeners := fun hnil => h.listeners (List.map_eq_nil_iff.mp hnil)
  listener := by
    intro l hl
    obtain ⟨k, hk, rfl⟩ := List.mem_map.mp hl
    obtain ⟨haddr, hmode⟩ := h.listener k hk
    refine ⟨haddr, ?_⟩
    rcases hmode with hmode | hmode
    · exact .inl (by simp [Listener.applyDefaults, hmode])
    · exact .inr (by simp [Listener.applyDefaults, hmode])
  addresses := by
    have hsame : (c.listeners.map Listener.applyDefaults).filter Listener.fixed =
        (c.listeners.filter Listener.fixed).map Listener.applyDefaults := List.filter_map
    show (List.map Listener.addr (List.filter Listener.fixed
      (c.listeners.map Listener.applyDefaults))).Nodup
    rw [hsame, List.map_map]
    exact h.addresses
  certificates := h.certificates
  certificate := h.certificate
  host := h.host
  mode := h.mode
  store := h.store
  milters := h.milters

end

end Mailout
