import Mailout.Dataplane
import Mailout.Go.Run

/-!
# Loading a configuration into a running server

`newSnapshot` and `Server.Reload` of `internal/gateway/server.go`, with every step a configuration
may be refused at, and `newLimiter` and `sameStore` of `ratelimit.go`. What the process finds on its
machine is a `Machine`, which may be another one at every load. The connections to quota stores that
were made and not closed are `Clients`.

`newSnapshot_session` says that the snapshot a session works with is that of `Snapshot`.
`newSnapshot_cases` says what a load does to the connections, and `reload_clients_iff` what becomes
of them over any sequence of reloads.
-/

namespace Mailout

open Go

/-! ## Certificates -/

/-- The leaf of a key pair, with the names it has. -/
structure Certificate where
  der : Bytes
  dnsNames : List Bytes
  commonName : Bytes
  deriving DecidableEq, Repr

/-- What a process finds on its machine when it loads a configuration. -/
structure Machine where
  bcrypt : Bcrypt
  /-- `loadDKIMPrivateKey` -/
  loadKey : DKIMKey → Except Bytes Nat
  /-- `strconv.Quote` -/
  quote : Bytes → Bytes
  /-- `loadKeyPair`: the first certificate of the chain. -/
  loadKeyPair : CertificateRef → Except Bytes Bytes
  /-- `x509.ParseCertificate` -/
  parseCertificate : Bytes → Except Bytes Certificate
  /-- `AppendCertsFromPEM`: there is a certificate in the text. -/
  hasCertificate : Bytes → Bool
  /-- `probeSpool` -/
  probeSpool : Bytes → Except Bytes Unit

/-- `certStore`; of two entries for a name the first one counts. -/
structure CertStore where
  byName : List (Bytes × Certificate)
  wildcards : List (Bytes × Certificate)
  defaultCrt : Option Certificate
  deriving DecidableEq, Repr

/-- `dnsNamesOf`. -/
def dnsNamesOf (leaf : Certificate) : List Bytes :=
  if leaf.dnsNames ≠ [] then leaf.dnsNames
  else if leaf.commonName ≠ [] then [leaf.commonName]
  else []

namespace CertStore

/-- The loop of `newCertStore` over the names of a certificate. -/
def addName (cert : Certificate) (s : CertStore) (dnsName : Bytes) : CertStore :=
  if (lit "*.").isPrefixOf dnsName then
    { s with wildcards := (toLower (dnsName.drop 2), cert) :: s.wildcards }
  else { s with byName := (toLower dnsName, cert) :: s.byName }

/-- A certificate, the `i`-th, is added. -/
def add (s : CertStore) (defaultCertificate : Bytes) (i : Nat) (name : Bytes) (cert : Certificate) :
    CertStore :=
  let s := (dnsNamesOf cert).foldl (addName cert) s
  if i = 0 ∨ (defaultCertificate ≠ [] ∧ name = defaultCertificate) then
    { s with defaultCrt := some cert }
  else s

/-- `certStore.getCertificate`. -/
def getCertificate (s : CertStore) (serverName : Bytes) : Option Certificate :=
  let name := toLower (trimSuffix (lit ".") serverName)
  match s.byName.lookup name with
  | some cert => some cert
  | none =>
    match (cut 0x2E name).bind fun p => s.wildcards.lookup p.2 with
    | some cert => some cert
    | none => s.defaultCrt

end CertStore

section
variable (m : Machine)

/-- The loop of `newCertStore`, from the `i`-th certificate on. -/
def newCertStoreFrom (defaultCertificate : Bytes) :
    Nat → List CertificateRef → CertStore → Except Bytes CertStore
  | _, [], s => .ok s
  | i, ref :: refs, s =>
    let name := if ref.name = [] then lit "certificates[" ++ formatNat i ++ lit "]" else ref.name
    match m.loadKeyPair ref with
    | .error err => .error (lit "certificate " ++ name ++ lit ": " ++ err)
    | .ok der =>
      match m.parseCertificate der with
      | .error err => .error (lit "certificate " ++ name ++ lit ": parse leaf: " ++ err)
      | .ok cert =>
        newCertStoreFrom defaultCertificate (i + 1) refs (s.add defaultCertificate i ref.name cert)

/-- `newCertStore`. -/
def newCertStore (cfg : TLSConfig) : Except Bytes CertStore :=
  if cfg.certificates.length = 0 then .error (lit "no certificate configured")
  else newCertStoreFrom m cfg.defaultCertificate 0 cfg.certificates ⟨[], [], none⟩

/-! ## The other parts of a snapshot -/

/-- What `newRelayer` may fail at. -/
def checkUpstreamCA (cfg : DataplaneConfig) : Except Bytes Unit :=
  if cfg.upstream.rootCAPEM ≠ [] ∧ ¬ m.hasCertificate cfg.upstream.rootCAPEM then
    .error (lit "upstream.rootCAPEM: no certificate found")
  else .ok ()

/-- What `newMilterChain` may fail at, from the `i`-th filter on. -/
def checkMilters : Nat → List MilterConfig → Except Bytes Unit
  | _, [] => .ok ()
  | i, mc :: mcs =>
    let name := if mc.name = [] then lit "milters[" ++ formatNat i ++ lit "]" else mc.name
    match mc.parseAddress m.quote with
    | .error err => .error (lit "milter " ++ name ++ lit ": " ++ err)
    | .ok _ => checkMilters (i + 1) mcs

end

/-! ## Connections to quota stores -/

/-- A `redis.UniversalClient`. -/
abbrev ClientId := Nat

/-- The clients that were made: the next one gets the number `created`, and `opened` are those not
closed. -/
structure Clients where
  created : ClientId
  opened : List ClientId
  deriving DecidableEq, Repr

namespace Clients

/-- `redis.NewUniversalClient`. -/
def connect : Comp Bytes Clients ClientId := fun c =>
  (.ok c.created, ⟨c.created + 1, c.opened ++ [c.created]⟩)

/-- `client.Close()`. -/
def close (c : Clients) (id : ClientId) : Clients := { c with opened := c.opened.filter (· ≠ id) }

end Clients

/-- `limiter`, with the client it counts through. -/
structure LiveLimiter where
  client : ClientId
  gateway : Bytes
  limits : RateLimitConfig
  deriving DecidableEq, Repr

/-- What a session reads of a limiter. -/
def LiveLimiter.session (l : LiveLimiter) : Limiter := ⟨l.gateway, l.limits.session⟩

/-- `sameStore`. -/
def sameStore (a b : RateLimitStore) : Bool :=
  a.addresses == b.addresses &&
    a.masterName == b.masterName &&
    a.db == b.db &&
    a.username == b.username &&
    a.password == b.password &&
    a.sentinelUsername == b.sentinelUsername &&
    a.sentinelPassword == b.sentinelPassword &&
    a.tls == b.tls &&
    a.insecureSkipVerify == b.insecureSkipVerify &&
    a.rootCAPEM == b.rootCAPEM &&
    a.timeout == b.timeout

/-- The checks of `newLimiter`, before it makes a client. -/
def checkStore (m : Machine) (store : RateLimitStore) : Except Bytes Unit :=
  if store.addresses.length = 0 then .error (lit "rateLimit.store.addresses is required")
  else if store.tls ∧ store.rootCAPEM ≠ [] ∧ ¬ m.hasCertificate store.rootCAPEM then
    .error (lit "rateLimit.store: no certificate found in rootCAPEM")
  else .ok ()

/-- `newLimiter`. -/
def newLimiter (m : Machine) (cfg : DataplaneConfig) : Comp Bytes Clients (Option LiveLimiter) :=
  match cfg.rateLimit with
  | none => return none
  | some limits => do
    Comp.ofExcept (checkStore m limits.store)
    return some ⟨← Clients.connect, cfg.hostname, limits⟩

/-! ## Snapshots -/

/-- `snapshot`: what a session reads of it, and what the server does. -/
structure LiveSnapshot where
  config : DataplaneConfig
  certs : CertStore
  session : Snapshot
  limiter : Option LiveLimiter

/-- `snapshot.limiterClient`. -/
def LiveSnapshot.limiterClient (s : LiveSnapshot) : Option ClientId := s.limiter.map LiveLimiter.client

/-- `reusableLimiter`. -/
def reusableLimiter (prev : Option LiveSnapshot) (cfg : DataplaneConfig) : Option LiveLimiter :=
  match prev.bind LiveSnapshot.limiter, cfg.rateLimit with
  | some limiter, some limits =>
    if sameStore limiter.limits.store limits.store then
      some { limiter with limits := limits, gateway := cfg.hostname }
    else none
  | _, _ => none

namespace LiveSnapshot

/-- The snapshot of a configuration all of whose parts were made. -/
def assemble (m : Machine) (cfg : DataplaneConfig) (certs : CertStore) (signer : DKIMSigner)
    (limiter : Option LiveLimiter) : LiveSnapshot :=
  let milters := newMilterChain cfg.session
  let (served, rejected) := PartitionAccounts m.bcrypt cfg.accounts
  { config := cfg
    certs := certs
    limiter := limiter
    session := {
      hostname := cfg.hostname
      spoolDir := cfg.limits.spoolDir
      spoolThreshold := cfg.limits.spoolThreshold
      rejected := rejected
      accounts := newAccountStore served
      relay := newRelayer cfg.session
      milters := milters
      dkim := signer
      limiter := limiter.map LiveLimiter.session
      policies := byUsername (policyOf milters) served } }

/-- The part of `newSnapshot` before the limiter. -/
def parts (m : Machine) (cfg : DataplaneConfig) : Except Bytes (CertStore × DKIMSigner) := do
  cfg.validate m.quote
  let certs ← newCertStore m cfg.tls
  checkUpstreamCA m cfg
  checkMilters m 0 cfg.milters
  let signer ← newDKIMSigner m.loadKey cfg.dkim
  return (certs, signer)

/-- The limiter of a new snapshot: the one in service if its store is the same, else a new one. -/
def limiterFor (m : Machine) (prev : Option LiveSnapshot) (cfg : DataplaneConfig) :
    Comp Bytes Clients (Option LiveLimiter) :=
  match reusableLimiter prev cfg with
  | some limiter => pure (some limiter)
  | none => newLimiter m cfg

/-- `newSnapshot`. -/
def newSnapshot (m : Machine) (prev : Option LiveSnapshot) (config : DataplaneConfig) :
    Comp Bytes Clients LiveSnapshot := do
  let cfg := config.applyDefaults
  let (certs, signer) ← Comp.ofExcept (parts m cfg)
  let limiter ← limiterFor m prev cfg
  Comp.ofExcept (m.probeSpool cfg.limits.spoolDir)
  return assemble m cfg certs signer limiter

end LiveSnapshot

/-- `Server`, as far as a reload changes it. -/
structure Server where
  current : Option LiveSnapshot
  clients : Clients

namespace Server

/-- A server before its first configuration. -/
def fresh : Server := ⟨none, ⟨0, []⟩⟩

/-- The client of the snapshot in service. -/
def limiterClient (s : Server) : Option ClientId := s.current.bind LiveSnapshot.limiterClient

/-- `Server.Reload`. -/
def reload (m : Machine) (config : DataplaneConfig) : Comp Bytes Server Unit := fun s =>
  match (LiveSnapshot.newSnapshot m s.current config).run s.clients with
  | (.error err, clients) => (.error err, { s with clients := clients })
  | (.ok snap, clients) =>
    -- a store the new configuration no longer points at is closed
    (.ok (), { current := some snap
               clients := match s.limiterClient with
                 | some client => if snap.limiterClient ≠ some client then clients.close client else clients
                 | none => clients })

end Server

/-! ## What a load does -/

namespace LiveSnapshot

variable {m : Machine} {prev : Option LiveSnapshot}

/-- What a limiter for a configuration has of it. -/
def LimiterOf (cfg : DataplaneConfig) (limiter : Option LiveLimiter) : Prop :=
  limiter.map (fun l => (l.gateway, l.limits)) = cfg.rateLimit.map fun limits => (cfg.hostname, limits)

/-- A limiter that is kept has the client of the one in service, and the limits of the new configuration. -/
theorem reusableLimiter_some {cfg : DataplaneConfig} {limiter : LiveLimiter}
    (h : reusableLimiter prev cfg = some limiter) :
    prev.bind LiveSnapshot.limiterClient = some limiter.client ∧ LimiterOf cfg (some limiter) := by
  unfold reusableLimiter at h
  split at h
  · rename_i old limits hold hlimits
    split_ifs at h
    cases h
    obtain ⟨snap, rfl, hsnap⟩ := Option.bind_eq_some_iff.mp hold
    refine ⟨?_, ?_⟩
    · rw [Option.bind_some, LiveSnapshot.limiterClient, hsnap]
      rfl
    · rw [LimiterOf, hlimits]
      rfl
  · cases h

/-- The limiter of a new snapshot is reused with its client, is none at all, could not be made, or has
a client of its own. -/
theorem limiterFor_cases (m : Machine) (prev : Option LiveSnapshot) (cfg : DataplaneConfig)
    (c : Clients) :
    (∃ l, (limiterFor m prev cfg).run c = (.ok (some l), c) ∧ reusableLimiter prev cfg = some l) ∨
    ((limiterFor m prev cfg).run c = (.ok none, c) ∧ reusableLimiter prev cfg = none ∧
      cfg.rateLimit = none) ∨
    (∃ limits err, (limiterFor m prev cfg).run c = (.error err, c) ∧
      reusableLimiter prev cfg = none ∧ cfg.rateLimit = some limits ∧
      checkStore m limits.store = .error err) ∨
    ∃ limits, (limiterFor m prev cfg).run c = (.ok (some ⟨c.created, cfg.hostname, limits⟩),
        ⟨c.created + 1, c.opened ++ [c.created]⟩) ∧
      reusableLimiter prev cfg = none ∧ cfg.rateLimit = some limits ∧
      checkStore m limits.store = .ok () := by
  cases hreuse : reusableLimiter prev cfg with
  | some l =>
    refine .inl ⟨l, ?_, rfl⟩
    rw [limiterFor, hreuse]
    rfl
  | none =>
    have hnew : limiterFor m prev cfg = newLimiter m cfg := by rw [limiterFor, hreuse]
    rw [hnew, newLimiter]
    cases cfg.rateLimit with
    | none => exact .inr (.inl ⟨rfl, rfl, rfl⟩)
    | some limits =>
      cases hstore : checkStore m limits.store with
      | error err =>
        refine .inr (.inr (.inl ⟨limits, err, ?_, rfl, rfl, hstore⟩))
        exact Comp.run_bind_of_error (congrArg (·, c) hstore)
      | ok u =>
        refine .inr (.inr (.inr ⟨limits, ?_, rfl, rfl, hstore⟩))
        exact Comp.run_bind_of_ok (congrArg (·, c) hstore)

/-- A limiter is made for the configuration it is of. -/
theorem limiterFor_limiterOf {cfg : DataplaneConfig} {c c' : Clients} {limiter : Option LiveLimiter}
    (h : (limiterFor m prev cfg).run c = (.ok limiter, c')) : LimiterOf cfg limiter := by
  rcases limiterFor_cases m prev cfg c with ⟨l, hrun, hreuse⟩ | ⟨hrun, -, hnone⟩ |
    ⟨limits, err, hrun, -⟩ | ⟨limits, hrun, -, hsome, -⟩
  · rw [h] at hrun
    cases hrun
    exact (reusableLimiter_some hreuse).2
  · rw [h] at hrun
    cases hrun
    rw [LimiterOf, hnone]
    rfl
  · rw [h] at hrun
    cases hrun
  · rw [h] at hrun
    cases hrun
    rw [LimiterOf, hsome]
    rfl

/-- What was checked of a configuration, and what was made of its files. -/
theorem parts_ok {cfg : DataplaneConfig} {made : CertStore × DKIMSigner}
    (h : parts m cfg = .ok made) :
    cfg.validate m.quote = .ok () ∧ newCertStore m cfg.tls = .ok made.1 ∧
      checkUpstreamCA m cfg = .ok () ∧ checkMilters m 0 cfg.milters = .ok () ∧
      newDKIMSigner m.loadKey cfg.dkim = .ok made.2 := by
  unfold parts at h
  cases hvalid : cfg.validate m.quote with
  | error err => rw [hvalid] at h; cases h
  | ok u =>
    cases hcerts : newCertStore m cfg.tls with
    | error err => rw [hvalid, hcerts] at h; cases h
    | ok certs =>
      cases hca : checkUpstreamCA m cfg with
      | error err => rw [hvalid, hcerts, hca] at h; cases h
      | ok u =>
        cases hmilters : checkMilters m 0 cfg.milters with
        | error err => rw [hvalid, hcerts, hca, hmilters] at h; cases h
        | ok u =>
          cases hdkim : newDKIMSigner m.loadKey cfg.dkim with
          | error err => rw [hvalid, hcerts, hca, hmilters, hdkim] at h; cases h
          | ok signer =>
            rw [hvalid, hcerts, hca, hmilters, hdkim] at h
            cases h
            exact ⟨rfl, rfl, rfl, rfl, rfl⟩

/-- A load that fails after it made a client for the quota store: every part before the limiter could
be made, the store is not the one in service, and the spool directory cannot be written. -/
def Leaks (m : Machine) (prev : Option LiveSnapshot) (config : DataplaneConfig) : Prop :=
  (∃ made, parts m config.applyDefaults = .ok made) ∧
    reusableLimiter prev config.applyDefaults = none ∧
    (∃ limits, config.applyDefaults.rateLimit = some limits ∧ checkStore m limits.store = .ok ()) ∧
    ∃ err, m.probeSpool config.limits.spoolDir = .error err

/-- A load is refused and leaves the clients as they were, is refused and leaves one more, or gives a
snapshot with the client in service, with none, or with a new one. -/
theorem newSnapshot_cases (m : Machine) (prev : Option LiveSnapshot) (config : DataplaneConfig)
    (c : Clients) :
    (¬ Leaks m prev config ∧ ∃ err, (newSnapshot m prev config).run c = (.error err, c)) ∨
    (Leaks m prev config ∧ ∃ err, (newSnapshot m prev config).run c =
      (.error err, ⟨c.created + 1, c.opened ++ [c.created]⟩)) ∨
    ¬ Leaks m prev config ∧ ∃ made limiter c', parts m config.applyDefaults = .ok made ∧
      m.probeSpool config.limits.spoolDir = .ok () ∧
      (limiterFor m prev config.applyDefaults).run c = (.ok limiter, c') ∧
      (newSnapshot m prev config).run c =
        (.ok (assemble m config.applyDefaults made.1 made.2 limiter), c') ∧
      ((limiter.map LiveLimiter.client = prev.bind LiveSnapshot.limiterClient ∧ c' = c) ∨
        (limiter = none ∧ c' = c) ∨
        limiter.map LiveLimiter.client = some c.created ∧
          c' = ⟨c.created + 1, c.opened ++ [c.created]⟩) := by
  cases hparts : parts m config.applyDefaults with
  | error err =>
    refine .inl ⟨fun ⟨⟨made, h⟩, _⟩ => (nomatch hparts.symm.trans h), err, ?_⟩
    exact Comp.run_bind_of_error (congrArg (·, c) hparts)
  | ok made =>
    have hstart : (newSnapshot m prev config).run c = (do
        let limiter ← limiterFor m prev config.applyDefaults
        Comp.ofExcept (m.probeSpool config.limits.spoolDir)
        return assemble m config.applyDefaults made.1 made.2 limiter).run c :=
      Comp.run_bind_of_ok (congrArg (·, c) hparts)
    cases hprobe : m.probeSpool config.limits.spoolDir with
    | ok u =>
      have hsound : ¬ Leaks m prev config := fun ⟨_, _, _, err, h⟩ => nomatch hprobe.symm.trans h
      rcases limiterFor_cases m prev config.applyDefaults c with ⟨l, hrun, hreuse⟩ | ⟨hrun, -, -⟩ |
        ⟨limits, err, hrun, -⟩ | ⟨limits, hrun, -⟩
      · rw [Comp.run_bind_of_ok hrun, hprobe] at hstart
        refine .inr (.inr ⟨hsound, made, _, _, rfl, rfl, hrun, hstart, .inl ⟨?_, rfl⟩⟩)
        exact (reusableLimiter_some hreuse).1.symm
      · rw [Comp.run_bind_of_ok hrun, hprobe] at hstart
        exact .inr (.inr ⟨hsound, made, _, _, rfl, rfl, hrun, hstart, .inr (.inl ⟨rfl, rfl⟩)⟩)
      · rw [Comp.run_bind_of_error hrun] at hstart
        exact .inl ⟨hsound, err, hstart⟩
      · rw [Comp.run_bind_of_ok hrun, hprobe] at hstart
        exact .inr (.inr ⟨hsound, made, _, _, rfl, rfl, hrun, hstart, .inr (.inr ⟨rfl, rfl⟩)⟩)
    | error err =>
      rcases limiterFor_cases m prev config.applyDefaults c with ⟨l, hrun, hreuse⟩ | ⟨hrun, -, hnone⟩ |
        ⟨limits, err', hrun, -, hsome, hstore⟩ | ⟨limits, hrun, hreuse, hsome, hstore⟩
      · rw [Comp.run_bind_of_ok hrun, hprobe] at hstart
        exact .inl ⟨fun h => (nomatch hreuse.symm.trans h.2.1), err, hstart⟩
      · rw [Comp.run_bind_of_ok hrun, hprobe] at hstart
        exact .inl ⟨fun ⟨_, _, ⟨limits, h, _⟩, _⟩ => (nomatch hnone.symm.trans h), err, hstart⟩
      · rw [Comp.run_bind_of_error hrun] at hstart
        refine .inl ⟨fun ⟨_, _, ⟨limits', h, hok⟩, _⟩ => ?_, err', hstart⟩
        cases hsome.symm.trans h
        exact nomatch hstore.symm.trans hok
      · rw [Comp.run_bind_of_ok hrun, hprobe] at hstart
        exact .inr (.inl ⟨⟨⟨made, hparts⟩, hreuse, ⟨limits, hsome, hstore⟩, err, hprobe⟩, err, hstart⟩)

/-- The snapshot a session works with is that of the part of the configuration it reads. -/
theorem newSnapshot_session {config : DataplaneConfig} {c c' : Clients} {snap : LiveSnapshot}
    (h : (newSnapshot m prev config).run c = (.ok snap, c')) :
    Mailout.newSnapshot ⟨m.bcrypt, m.loadKey, fun _ => none⟩ config.session = .ok snap.session := by
  rcases newSnapshot_cases m prev config c with ⟨-, err, hrun⟩ | ⟨-, err, hrun⟩ |
    ⟨-, made, limiter, c₁, hparts, -, hlimiter, hrun, -⟩
  · rw [h] at hrun
    cases hrun
  · rw [h] at hrun
    cases hrun
  · rw [h] at hrun
    cases hrun
    have hsession : limiter.map LiveLimiter.session =
        config.applyDefaults.session.rateLimit.map fun limits =>
          ⟨config.applyDefaults.session.hostname, limits⟩ := by
      have hof := congrArg (Option.map fun p : Bytes × RateLimitConfig => (⟨p.1, p.2.session⟩ : Limiter))
        (limiterFor_limiterOf hlimiter)
      simp only [Option.map_map, DataplaneConfig.session, Function.comp_def] at hof ⊢
      exact hof
    rw [Mailout.newSnapshot]
    simp only
    rw [← DataplaneConfig.session_applyDefaults, ← hsession,
      show newDKIMSigner m.loadKey config.applyDefaults.session.dkim = .ok made.2 from
        (parts_ok hparts).2.2.2.2]
    rfl

end LiveSnapshot

/-! ## Connections over a sequence of reloads -/

namespace Server

/-- A load: what the process finds on its machine, and the configuration. -/
abbrev Load := Machine × DataplaneConfig

/-- A call of Reload, successful or not. -/
def step (s : Server) (load : Load) : Option Server := some ((reload load.1 load.2).run s).2

/-- What holds between two calls of Reload: the client in service is open, and clients have numbers
that were given out. -/
structure Connected (s : Server) : Prop where
  inUse : ∀ c, s.limiterClient = some c → c ∈ s.clients.opened
  made : ∀ c ∈ s.clients.opened, c < s.clients.created

/-- A client is open that is not in service. -/
def Stray (s : Server) : Prop := ∃ c ∈ s.clients.opened, s.limiterClient ≠ some c

/-- A new server has no client. -/
theorem connected_fresh : fresh.Connected := ⟨nofun, nofun⟩

/-- The clients are exactly the one in service when none is astray. -/
theorem Connected.exact_iff {s : Server} (h : s.Connected) :
    (∀ c, c ∈ s.clients.opened ↔ s.limiterClient = some c) ↔ ¬ s.Stray := by
  constructor
  · rintro hall ⟨c, hmem, hne⟩
    exact hne ((hall c).mp hmem)
  · intro hstray c
    refine ⟨fun hmem => ?_, h.inUse c⟩
    by_contra hne
    exact hstray ⟨c, hmem, hne⟩

variable {m : Machine} {config : DataplaneConfig}

/-- A reload that is refused leaves the snapshot in service. -/
theorem reload_of_error {s : Server} {err : Bytes} {clients : Clients}
    (h : (LiveSnapshot.newSnapshot m s.current config).run s.clients = (.error err, clients)) :
    (reload m config).run s = (.error err, { s with clients := clients }) := by
  show (match (LiveSnapshot.newSnapshot m s.current config).run s.clients with
    | (.error err, clients) => _
    | (.ok snap, clients) => _) = _
  rw [h]

/-- The clients once the one that is no longer in service is closed. -/
def swap (old new : Option ClientId) (clients : Clients) : Clients :=
  match old with
  | some client => if new ≠ some client then clients.close client else clients
  | none => clients

/-- One that goes through swaps the snapshot, and closes the client that the old one had unless the new one
has it. -/
theorem reload_of_ok {s : Server} {snap : LiveSnapshot} {clients : Clients}
    (h : (LiveSnapshot.newSnapshot m s.current config).run s.clients = (.ok snap, clients)) :
    (reload m config).run s =
      (.ok (), ⟨some snap, swap s.limiterClient snap.limiterClient clients⟩) := by
  show (match (LiveSnapshot.newSnapshot m s.current config).run s.clients with
    | (.error err, clients) => _
    | (.ok snap, clients) => _) = _
  rw [h]
  rfl

/-- A client stays open unless it is the old snapshot's and not the new one's. -/
theorem mem_swap {old new : Option ClientId} {clients : Clients} {c : ClientId} :
    c ∈ (swap old new clients).opened ↔ c ∈ clients.opened ∧ (old = some c → new = some c) := by
  unfold swap
  cases old with
  | none => simp
  | some client =>
    simp only [Option.some.injEq]
    split_ifs with hnew
    · simp only [Clients.close, List.mem_filter, decide_eq_true_eq]
      refine and_congr_right fun _ => ⟨fun hne heq => absurd heq.symm hne, ?_⟩
      rintro himp rfl
      exact hnew (himp rfl)
    · rw [not_not] at hnew
      refine ⟨fun hmem => ⟨hmem, ?_⟩, And.left⟩
      rintro rfl
      exact hnew

/-- No client is made by the swap. -/
theorem swap_created (old new : Option ClientId) (clients : Clients) :
    (swap old new clients).created = clients.created := by
  unfold swap
  cases old with
  | none => rfl
  | some client =>
    simp only
    split_ifs <;> rfl

/-- The clients that were made, and one more. -/
theorem Connected.made_next {s : Server} (h : s.Connected) {c : ClientId}
    (hc : c ∈ s.clients.opened ++ [s.clients.created]) : c < s.clients.created + 1 := by
  rcases List.mem_append.mp hc with hc | hc
  · exact Nat.lt_succ_of_lt (h.made c hc)
  · rw [List.mem_singleton.mp hc]
    exact Nat.lt_succ_self _

/-- A snapshot comes into service with the client that was in service, which goes on. -/
theorem Connected.kept {s : Server} {snap : LiveSnapshot} (h : s.Connected)
    (hsame : snap.limiterClient = s.limiterClient) :
    Connected ⟨some snap, swap s.limiterClient snap.limiterClient s.clients⟩ ∧
      (Stray ⟨some snap, swap s.limiterClient snap.limiterClient s.clients⟩ ↔ s.Stray) := by
  have hclient : Server.limiterClient ⟨some snap, swap s.limiterClient s.limiterClient s.clients⟩ =
    s.limiterClient := hsame
  rw [hsame]
  refine ⟨⟨fun c hc => ?_, fun c hc => ?_⟩, ?_⟩
  · rw [hclient] at hc
    exact mem_swap.mpr ⟨h.inUse c hc, id⟩
  · rw [swap_created]
    exact h.made c (mem_swap.mp hc).1
  · simp only [Stray, hclient, mem_swap, imp_self, and_true]

/-- A snapshot without a quota comes into service. -/
theorem Connected.unlimited {s : Server} {snap : LiveSnapshot} (h : s.Connected)
    (hnone : snap.limiterClient = none) :
    Connected ⟨some snap, swap s.limiterClient snap.limiterClient s.clients⟩ ∧
      (Stray ⟨some snap, swap s.limiterClient snap.limiterClient s.clients⟩ ↔ s.Stray) := by
  have hclient : Server.limiterClient ⟨some snap, swap s.limiterClient none s.clients⟩ = none := hnone
  rw [hnone]
  refine ⟨⟨fun c hc => ?_, fun c hc => ?_⟩, ?_⟩
  · rw [hclient] at hc
    cases hc
  · rw [swap_created]
    exact h.made c (mem_swap.mp hc).1
  · simp only [Stray, hclient, mem_swap]
    simp

/-- A snapshot comes into service with a client that was made for it. -/
theorem Connected.renewed {s : Server} {snap : LiveSnapshot} (h : s.Connected)
    (hfresh : snap.limiterClient = some s.clients.created) :
    Connected ⟨some snap, swap s.limiterClient snap.limiterClient
        ⟨s.clients.created + 1, s.clients.opened ++ [s.clients.created]⟩⟩ ∧
      (Stray ⟨some snap, swap s.limiterClient snap.limiterClient
        ⟨s.clients.created + 1, s.clients.opened ++ [s.clients.created]⟩⟩ ↔ s.Stray) := by
  have hclient : Server.limiterClient ⟨some snap, swap s.limiterClient (some s.clients.created)
    ⟨s.clients.created + 1, s.clients.opened ++ [s.clients.created]⟩⟩ = some s.clients.created := hfresh
  rw [hfresh]
  refine ⟨⟨fun c hc => ?_, fun c hc => ?_⟩, ?_, ?_⟩
  · rw [hclient] at hc
    cases hc
    exact mem_swap.mpr ⟨List.mem_append_right _ (List.mem_singleton_self _), fun _ => rfl⟩
  · rw [swap_created]
    exact h.made_next (mem_swap.mp hc).1
  · rintro ⟨c, hmem, hne⟩
    rw [hclient] at hne
    obtain ⟨hopened, hold⟩ := mem_swap.mp hmem
    rcases List.mem_append.mp hopened with hc | hc
    · exact ⟨c, hc, fun heq => hne (hold heq)⟩
    · exact absurd (congrArg some (List.mem_singleton.mp hc).symm) hne
  · rintro ⟨c, hc, hne⟩
    refine ⟨c, mem_swap.mpr ⟨List.mem_append_left _ hc, fun heq => absurd heq hne⟩, ?_⟩
    rw [hclient]
    exact fun heq => Nat.ne_of_gt (h.made c hc) (Option.some.inj heq)

/-- One call of Reload: the client in service stays open, and a client goes astray exactly if the
load made one and failed. -/
theorem Connected.step {s t : Server} {load : Load} (h : s.Connected)
    (hstep : Server.step s load = some t) :
    t.Connected ∧ (t.Stray ↔ s.Stray ∨ LiveSnapshot.Leaks load.1 s.current load.2) := by
  obtain ⟨m, config⟩ := load
  cases hstep
  rcases LiveSnapshot.newSnapshot_cases m s.current config s.clients with
    ⟨hsound, err, hrun⟩ | ⟨hleak, err, hrun⟩ |
    ⟨hsound, made, limiter, c', -, -, -, hrun, hwhich⟩
  · -- refused, and nothing was made
    rw [reload_of_error hrun]
    exact ⟨⟨h.inUse, h.made⟩, ⟨.inl, fun hor => hor.resolve_right hsound⟩⟩
  · -- refused, and the client that was made is open
    rw [reload_of_error hrun]
    refine ⟨⟨fun c hc => List.mem_append_left _ (h.inUse c hc), fun c hc => h.made_next hc⟩, ?_⟩
    refine iff_of_true ⟨s.clients.created, ?_, fun hc => ?_⟩ (.inr hleak)
    · exact List.mem_append_right _ (List.mem_singleton_self _)
    · exact Nat.lt_irrefl _ (h.made _ (h.inUse _ hc))
  · rw [reload_of_ok hrun]
    have hstray : s.Stray ∨ LiveSnapshot.Leaks m s.current config ↔ s.Stray := or_iff_left hsound
    rw [hstray]
    rcases hwhich with ⟨hsame, rfl⟩ | ⟨hnone, rfl⟩ | ⟨hfresh, rfl⟩
    · exact h.kept hsame
    · exact h.unlimited (congrArg (Option.map LiveLimiter.client) hnone)
    · exact h.renewed hfresh

/-- A run of reloads. -/
theorem Connected.runs {loads : List Load} : ∀ {s t : Server}, s.Connected →
    Go.runs Server.step s loads = some t → t.Connected ∧
      (t.Stray ↔ s.Stray ∨ ¬ Meets Server.step
        (fun s load => ¬ LiveSnapshot.Leaks load.1 s.current load.2) s loads) := by
  induction loads with
  | nil =>
    intro s t h hrun
    cases hrun
    exact ⟨h, by simp [Meets]⟩
  | cons load loads ih =>
    intro s t h hrun
    obtain ⟨s₁, hstep, hrest⟩ := runs_cons hrun
    obtain ⟨h₁, hstray₁⟩ := h.step hstep
    obtain ⟨ht, hstray⟩ := ih h₁ hrest
    refine ⟨ht, ?_⟩
    have hmeets : Meets Server.step (fun s load => ¬ LiveSnapshot.Leaks load.1 s.current load.2) s
        (load :: loads) ↔ ¬ LiveSnapshot.Leaks load.1 s.current load.2 ∧ Meets Server.step
          (fun s load => ¬ LiveSnapshot.Leaks load.1 s.current load.2) s₁ loads := by
      rw [Meets, hstep]
      simp
    rw [hstray, hstray₁, hmeets, not_and_or, not_not, or_assoc]

/-- **Clients of the quota store.** After every sequence of reloads, with any configurations and on
any machine, the client in service is open; and it is the only one exactly if no load made a client
and failed after that. -/
theorem reload_clients_iff {loads : List Load} {s : Server}
    (hrun : Go.runs Server.step Server.fresh loads = some s) :
    (∀ c, s.limiterClient = some c → c ∈ s.clients.opened) ∧
    ((∀ c, c ∈ s.clients.opened ↔ s.limiterClient = some c) ↔
      Meets Server.step (fun s load => ¬ LiveSnapshot.Leaks load.1 s.current load.2)
        Server.fresh loads) := by
  obtain ⟨hs, hstray⟩ := connected_fresh.runs hrun
  refine ⟨hs.inUse, ?_⟩
  rw [hs.exact_iff, hstray, not_or, not_not]
  exact and_iff_right fun ⟨c, hc, _⟩ => nomatch hc

end Server

/-- A machine where every file is there. -/
def Machine.plain : Machine where
  bcrypt := Host.plain.bcrypt
  loadKey _ := .ok 0
  quote := id
  loadKeyPair _ := .ok []
  parseCertificate der := .ok ⟨der, [], []⟩
  hasCertificate _ := true
  probeSpool _ := .ok ()

/-- A configuration with a listener, a certificate and an upstream. -/
def DataplaneConfig.plain : DataplaneConfig where
  hostname := lit "relay.test"
  listeners := [⟨lit "submission", lit ":587", .mode .startTLS⟩]
  tls := ⟨[⟨lit "tls", lit "tls.crt", lit "tls.key", [], []⟩], []⟩
  upstream := ⟨lit "up.test", 0, .mode .startTLS, false, [], [], [], 0⟩
  accounts := []
  milters := []
  dkim := []
  rateLimit := none
  limits := ⟨0, 0, 0, 0, 0, 0, [], 0⟩
  metricsToken := []

/-- A configuration with a quota. -/
def DataplaneConfig.limited : DataplaneConfig :=
  { DataplaneConfig.plain with
    rateLimit := some ⟨⟨[lit "store:6379"], [], 0, [], [], [], [], false, false, [], 0⟩, 10, 10⟩ }

namespace Server

/-- A quota is set and taken away again, and its client is closed. -/
theorem reload_clients_dropped : ∃ s, Go.runs Server.step Server.fresh
      [(Machine.plain, DataplaneConfig.limited), (Machine.plain, DataplaneConfig.plain)] = some s ∧
    s.clients.created = 1 ∧ ∀ c, c ∈ s.clients.opened ↔ s.limiterClient = some c := by
  refine ⟨_, rfl, by decide +kernel, (@reload_clients_iff
    [(Machine.plain, DataplaneConfig.limited), (Machine.plain, DataplaneConfig.plain)] _ rfl).2.mpr ?_⟩
  have hsound : ∀ s config, ¬ LiveSnapshot.Leaks Machine.plain s config :=
    fun s config ⟨_, _, _, _, h⟩ => nomatch h
  exact ⟨hsound _ _, fun t _ => ⟨hsound _ _, fun _ _ => trivial⟩⟩

/-- The spool directory cannot be written when a quota is set: the reload is refused, and the client
it made stays open. -/
theorem refused_reload_leaks :
    ((reload { Machine.plain with probeSpool := fun _ => .error (lit "read-only") }
      DataplaneConfig.limited).run fresh).1.isOk = false ∧
    ((reload { Machine.plain with probeSpool := fun _ => .error (lit "read-only") }
      DataplaneConfig.limited).run fresh).2.limiterClient = none ∧
    ((reload { Machine.plain with probeSpool := fun _ => .error (lit "read-only") }
      DataplaneConfig.limited).run fresh).2.clients.opened = [0] := by
  decide +kernel

end Server

end Mailout
