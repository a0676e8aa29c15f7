import Mailout.Render
import Mailout.Server

/-!
# A reload and a restart

`newSMTPServer` and `Run` of `internal/gateway/server.go`: a listener takes some of its parameters
from the configuration once, when it is opened (`Socket`), and the rest from the snapshot in service
when a connection comes in. The operator rolls the pods only when the pre-image of `RestartHash`
changes; `reload_restart_iff` says when a reload leaves a process that serves connections as one that
was started anew would.
-/

namespace Mailout

open Go

/-- A listener with what it was given when it was opened. -/
structure Socket where
  listener : Listener
  maxConnections : Int
  domain : Bytes
  maxLineLength : Int
  maxMessageBytes : Int
  maxRecipients : Int
  readTimeout : Int
  writeTimeout : Int
  deriving DecidableEq, Repr

/-- `newSMTPServer`, with the bound on connections that `Run` puts around the listener. -/
def newSMTPServer (config : DataplaneConfig) (lc : Listener) : Socket where
  listener := lc
  maxConnections := config.limits.maxConnections
  domain := config.hostname
  maxLineLength := config.limits.maxLineLength
  maxMessageBytes := config.limits.maxMessageBytes
  maxRecipients := config.limits.maxRecipients
  readTimeout := config.limits.readTimeout
  writeTimeout := config.limits.writeTimeout

/-- What a connection is served with: the parameters of its listener, and the configuration, the
certificates and the session's part of the snapshot in service when it is accepted. -/
structure Service where
  socket : Socket
  config : DataplaneConfig
  certs : CertStore
  session : Snapshot

/-- A running gateway. -/
structure Gateway where
  server : Server
  sockets : List Socket

namespace Gateway

/-- `NewServer` and `Run`, where every listener can be opened. -/
def start (m : Machine) (cfg : DataplaneConfig) : Except Bytes Gateway :=
  match (Server.reload m cfg).run Server.fresh with
  | (.error err, _) => .error err
  | (.ok (), server) => .ok ⟨server, server.current.elim [] fun snap =>
      snap.config.listeners.map (newSMTPServer snap.config)⟩

/-- `Reload` of a running gateway. -/
def reload (g : Gateway) (m : Machine) (cfg : DataplaneConfig) : Except Bytes Gateway :=
  match (Server.reload m cfg).run g.server with
  | (.error err, _) => .error err
  | (.ok (), server) => .ok ⟨server, g.sockets⟩

/-- How connections are served, listener by listener. -/
def serves (g : Gateway) : List Service :=
  g.server.current.elim [] fun snap =>
    g.sockets.map fun socket => ⟨socket, snap.config, snap.certs, snap.session⟩

end Gateway

/-! ## What a load leaves in service -/

section
variable {m : Machine} {cfg : DataplaneConfig}

/-- A snapshot of a configuration, but for the client it counts through. -/
def SnapshotOf (m : Machine) (cfg : DataplaneConfig) (snap : LiveSnapshot) : Prop :=
  snap.config = cfg.applyDefaults ∧ newCertStore m cfg.tls = .ok snap.certs ∧
    newSnapshot ⟨m.bcrypt, m.loadKey, fun _ => none⟩ cfg.session = .ok snap.session

/-- After a reload that went through, the snapshot in service is that of its configuration. -/
theorem reload_snapshotOf {s s' : Server} (h : (Server.reload m cfg).run s = (.ok (), s')) :
    ∃ snap, s'.current = some snap ∧ SnapshotOf m cfg snap := by
  rcases LiveSnapshot.newSnapshot_cases m s.current cfg s.clients with ⟨-, err, hrun⟩ |
    ⟨-, err, hrun⟩ | ⟨-, made, limiter, c', hparts, -, -, hrun, -⟩
  · rw [Server.reload_of_error hrun] at h
    cases h
  · rw [Server.reload_of_error hrun] at h
    cases h
  · rw [Server.reload_of_ok hrun] at h
    cases h
    exact ⟨_, rfl, rfl, (LiveSnapshot.parts_ok hparts).2.1, LiveSnapshot.newSnapshot_session hrun⟩

/-- Two snapshots of one configuration on one machine serve alike. -/
theorem SnapshotOf.unique {snap snap' : LiveSnapshot} (h : SnapshotOf m cfg snap)
    (h' : SnapshotOf m cfg snap') :
    snap.config = snap'.config ∧ snap.certs = snap'.certs ∧ snap.session = snap'.session :=
  ⟨h.1.trans h'.1.symm, Except.ok.inj (h.2.1.symm.trans h'.2.1),
    Except.ok.inj (h.2.2.symm.trans h'.2.2)⟩

/-- A gateway that started serves its configuration, on listeners that are made from it. -/
theorem start_ok {g : Gateway} (h : Gateway.start m cfg = .ok g) :
    (∃ snap, g.server.current = some snap ∧ SnapshotOf m cfg snap) ∧
      g.sockets = cfg.applyDefaults.listeners.map (newSMTPServer cfg.applyDefaults) := by
  unfold Gateway.start at h
  cases hrun : (Server.reload m cfg).run Server.fresh with
  | mk res server =>
    rw [hrun] at h
    cases res with
    | error err => cases h
    | ok u =>
      cases h
      obtain ⟨snap, hcurrent, hsnap⟩ := reload_snapshotOf hrun
      refine ⟨⟨snap, hcurrent, hsnap⟩, ?_⟩
      rw [hcurrent, Option.elim_some, hsnap.1]

/-- A reload changes what is served, and not the listeners. -/
theorem reload_ok {g g' : Gateway} (h : g.reload m cfg = .ok g') :
    (∃ snap, g'.server.current = some snap ∧ SnapshotOf m cfg snap) ∧ g'.sockets = g.sockets := by
  unfold Gateway.reload at h
  cases hrun : (Server.reload m cfg).run g.server with
  | mk res server =>
    rw [hrun] at h
    cases res with
    | error err => cases h
    | ok u =>
      cases h
      exact ⟨reload_snapshotOf hrun, rfl⟩

/-- Two gateways with one configuration in service serve alike if their sockets are alike. -/
theorem serves_eq_iff {g g' : Gateway}
    (h : ∃ snap, g.server.current = some snap ∧ SnapshotOf m cfg snap)
    (h' : ∃ snap, g'.server.current = some snap ∧ SnapshotOf m cfg snap) :
    g.serves = g'.serves ↔ g.sockets = g'.sockets := by
  obtain ⟨snap, hcurrent, hsnap⟩ := h
  obtain ⟨snap', hcurrent', hsnap'⟩ := h'
  obtain ⟨hconfig, hcerts, hsession⟩ := hsnap.unique hsnap'
  rw [Gateway.serves, Gateway.serves, hcurrent, hcurrent', Option.elim_some, Option.elim_some, hconfig,
    hcerts, hsession]
  refine ⟨fun heq => ?_, fun heq => by rw [heq]⟩
  have hsockets := congrArg (List.map Service.socket) heq
  simpa only [List.map_map, Function.comp_def, List.map_id'] using hsockets

end

/-! ## Rendered configurations -/

section
variable {Selector : Type} {gw : GatewayObject Selector} {inp : Input Selector}
  {cfg : DataplaneConfig}

/-- Whatever is rendered, the limits are the defaults. -/
theorem renders_limits (h : Renders inp (.ok cfg)) :
    cfg.limits = ⟨0, 0, 0, 0, 0, 0, SpoolDir, 0⟩ := by
  obtain ⟨sorted, -, hcfg⟩ := h
  unfold GatewayConfig at hcfg
  cases hgw : inp.gateway with
  | none => rw [hgw] at hcfg; cases hcfg
  | some gw => rw [hgw] at hcfg; cases hcfg; rfl

/-- What is rendered has a listener. -/
theorem renders_listeners (h : Renders inp (.ok cfg)) : cfg.listeners ≠ [] := by
  obtain ⟨sorted, -, hcfg⟩ := h
  unfold GatewayConfig at hcfg
  cases hgw : inp.gateway with
  | none => rw [hgw] at hcfg; cases hcfg
  | some gw => rw [hgw] at hcfg; cases hcfg; exact renderListeners_ne_nil _

/-- The name a gateway announces. -/
def GatewayObject.announced (gw : GatewayObject Selector) : Bytes :=
  let hostname := if gw.hostname = [] then gw.name else gw.hostname
  if hostname = [] then lit "mailout" else hostname

/-- The name that a gateway announces is the one its resource says, or the default. -/
theorem renders_announced (hgw : inp.gateway = some gw) (h : Renders inp (.ok cfg)) :
    cfg.applyDefaults.hostname = gw.announced := by
  obtain ⟨sorted, -, hcfg⟩ := h
  rw [GatewayConfig, hgw] at hcfg
  cases hcfg
  rfl

/-- What a socket takes from a configuration beside its listener. -/
theorem newSMTPServer_eq_iff {cfg cfg' : DataplaneConfig} (hlimits : cfg.limits = cfg'.limits)
    (l : Listener) : newSMTPServer cfg l = newSMTPServer cfg' l ↔ cfg.hostname = cfg'.hostname := by
  simp [newSMTPServer, hlimits]

end

/-- **A reload as good as a restart.** For every two renderings with the same pre-image of
`RestartHash`: a gateway started on the first and reloaded with the second serves connections as one
freshly started on the second, exactly if both gateways announce the same name. -/
theorem reload_restart_iff {Selector : Type} {m₁ m₂ : Machine} {inp₁ inp₂ : Input Selector}
    {gw₁ gw₂ : GatewayObject Selector} {cfg₁ cfg₂ : DataplaneConfig} {running reloaded restarted : Gateway}
    (hgw₁ : inp₁.gateway = some gw₁) (hgw₂ : inp₂.gateway = some gw₂)
    (hrenders₁ : Renders inp₁ (.ok cfg₁)) (hrenders₂ : Renders inp₂ (.ok cfg₂))
    (hsame : restartInput gw₁ cfg₁ = restartInput gw₂ cfg₂)
    (hstart : Gateway.start m₁ cfg₁ = .ok running)
    (hreload : running.reload m₂ cfg₂ = .ok reloaded)
    (hrestart : Gateway.start m₂ cfg₂ = .ok restarted) :
    reloaded.serves = restarted.serves ↔ gw₁.announced = gw₂.announced := by
  rw [← renders_announced hgw₁ hrenders₁, ← renders_announced hgw₂ hrenders₂]
  obtain ⟨-, hsockets₁⟩ := start_ok hstart
  obtain ⟨hloaded, hsockets⟩ := reload_ok hreload
  obtain ⟨hfresh, hsockets₂⟩ := start_ok hrestart
  have hlimits : cfg₁.applyDefaults.limits = cfg₂.applyDefaults.limits := by
    show cfg₁.limits.applyDefaults = cfg₂.limits.applyDefaults
    rw [renders_limits hrenders₁, renders_limits hrenders₂]
  have hlisteners : cfg₁.applyDefaults.listeners = cfg₂.applyDefaults.listeners :=
    congrArg (fun r => r.listeners.map Listener.applyDefaults) hsame
  have hne : cfg₂.applyDefaults.listeners ≠ [] := by
    show cfg₂.listeners.map Listener.applyDefaults ≠ []
    rw [Ne, List.map_eq_nil_iff]
    exact renders_listeners hrenders₂
  rw [serves_eq_iff hloaded hfresh, hsockets, hsockets₁, hsockets₂, hlisteners]
  constructor
  · intro heq
    obtain ⟨l, hl⟩ := List.exists_mem_of_ne_nil _ hne
    exact (newSMTPServer_eq_iff hlimits l).mp (List.map_inj_left.mp heq l hl)
  · intro heq
    exact List.map_congr_left fun l _ => (newSMTPServer_eq_iff hlimits l).mpr heq

/-- A gateway with a certificate and an upstream, and a hostname. -/
def namedGateway (hostname : Bytes) : GatewayObject Unit where
  name := lit "relay"
  namespace_ := lit "mailout"
  allowedAccounts := .all
  selector := none
  allowedSenders := []
  hostname := hostname
  listeners := ⟨none, none⟩
  tls := ⟨[lit "relay-cert"], none, [], []⟩
  upstream := ⟨lit "up.test", 587, none, false, false, none⟩
  dkim := []
  milters := []
  rateLimit := none

/-- What is read to render it, with some accounts. -/
def namedInput (hostname : Bytes) (accounts : List Account) : Input Unit where
  gateway := some (namedGateway hostname)
  accounts := accounts
  upstreamUsername := []
  upstreamPassword := []
  upstreamCAPEM := []
  rateLimitStore := ⟨[], [], [], [], []⟩
  metricsToken := []

/-- One account at most is sorted as it is. -/
theorem sortsBy_of_length_le_one {accounts : List Account} (h : accounts.length ≤ 1) :
    SortsBy Account.username accounts accounts := by
  refine ⟨.refl _, ?_⟩
  match accounts, h with
  | [], _ => exact .nil
  | [a], _ => exact List.pairwise_singleton _ _

/-- The configuration of such a gateway. -/
def namedConfig (hostname : Bytes) (accounts : List Account) : DataplaneConfig :=
  ((GatewayConfig (namedInput hostname accounts) accounts).toOption).get rfl

/-- That configuration is what is rendered. -/
theorem renders_namedConfig (hostname : Bytes) {accounts : List Account} (h : accounts.length ≤ 1) :
    Renders (namedInput hostname accounts) (.ok (namedConfig hostname accounts)) :=
  ⟨accounts, sortsBy_of_length_le_one h, rfl⟩

/-- A gateway that was started with one hostname and reloaded with another, and one started anew. -/
def renamed (hostname hostname' : Bytes) (accounts : List Account) :
    Except Bytes (Gateway × Gateway) := do
  let running ← Gateway.start Machine.plain (namedConfig hostname [])
  let reloaded ← running.reload Machine.plain (namedConfig hostname' accounts)
  let restarted ← Gateway.start Machine.plain (namedConfig hostname' accounts)
  return (reloaded, restarted)

/-- A gateway that is renamed while it runs, beside one that is started with the new name. -/
theorem renamed_ok {hostname hostname' : Bytes} {accounts : List Account} {g : Gateway × Gateway}
    (h : renamed hostname hostname' accounts = .ok g) : ∃ running,
      Gateway.start Machine.plain (namedConfig hostname []) = .ok running ∧
      running.reload Machine.plain (namedConfig hostname' accounts) = .ok g.1 ∧
      Gateway.start Machine.plain (namedConfig hostname' accounts) = .ok g.2 := by
  unfold renamed at h
  cases hstart : Gateway.start Machine.plain (namedConfig hostname []) with
  | error err => rw [hstart] at h; cases h
  | ok running =>
    cases hreload : running.reload Machine.plain (namedConfig hostname' accounts) with
    | error err => rw [hstart] at h; simp [hreload, bind, Except.bind] at h
    | ok reloaded =>
      cases hrestart : Gateway.start Machine.plain (namedConfig hostname' accounts) with
      | error err => rw [hstart] at h; simp [hreload, hrestart, bind, Except.bind] at h
      | ok restarted =>
        rw [hstart] at h
        simp only [hreload, hrestart, bind, Except.bind] at h
        cases h
        exact ⟨running, rfl, hreload, rfl⟩

/-- An account is added, and the name stays. -/
theorem reload_adds_account : ∃ g, renamed (lit "relay.test") (lit "relay.test")
      [⟨lit "app", lit "pw", false, [lit "a@x"], false⟩] = .ok g ∧ g.1.serves = g.2.serves := by
  have hsome : (renamed (lit "relay.test") (lit "relay.test")
      [⟨lit "app", lit "pw", false, [lit "a@x"], false⟩]).isOk = true := by
    decide +kernel
  cases hg : renamed (lit "relay.test") (lit "relay.test")
      [⟨lit "app", lit "pw", false, [lit "a@x"], false⟩] with
  | error err => rw [hg] at hsome; cases hsome
  | ok g =>
    obtain ⟨running, hstart, hreload, hrestart⟩ := renamed_ok hg
    have hsame : restartInput (namedGateway (lit "relay.test")) (namedConfig (lit "relay.test") []) =
        restartInput (namedGateway (lit "relay.test")) (namedConfig (lit "relay.test")
          [⟨lit "app", lit "pw", false, [lit "a@x"], false⟩]) := by
      decide +kernel
    exact ⟨g, rfl, (reload_restart_iff rfl rfl (renders_namedConfig _ (by decide))
      (renders_namedConfig _ (by decide)) hsame hstart hreload hrestart).mpr rfl⟩

/-- The hostname is changed, and nothing the operator looks at: a gateway that was reloaded goes on
announcing the old name, and one that is started announces the new one. -/
theorem reload_keeps_old_name :
    restartInput (namedGateway (lit "old.test")) (namedConfig (lit "old.test") []) =
      restartInput (namedGateway (lit "new.test")) (namedConfig (lit "new.test") []) ∧
    (renamed (lit "old.test") (lit "new.test") []).toOption.map
        (fun g => (g.1.serves.map (·.socket.domain), g.2.serves.map (·.socket.domain))) =
      some ([lit "old.test"], [lit "new.test"]) := by
  decide +kernel

end Mailout
