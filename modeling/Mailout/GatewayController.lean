import Mailout.Fit
import Mailout.Partition
import Mailout.Rotation

/-!
# The gateway controller

`GatewayReconciler.Reconcile` of `internal/controller/gateway_controller.go`. Everything is read before
anything is written: `Cluster.plan` collects the accounts, reads the credentials the gateway points
at, and renders and validates the configuration, and `publish` writes the objects and the status.
The configuration is cut down to its budget on the way (`FitAccounts`), and what of it the dataplane
serves is decided there (`PartitionAccounts`), while the status counts the accounts that were
collected. `status_truthful_iff` says when the two agree.
-/

namespace Mailout

open Go

variable {Selector : Type}

/-! ## The objects -/

/-- `MailoutGatewayStatus`. -/
structure GatewayStatus where
  conditions : List Condition
  observedGeneration : Int
  acceptedAccounts : Int
  listeners : List ListenerStatus
  serviceName : Bytes
  deriving DecidableEq, Repr

/-- `MailoutGateway`, with the Secrets its spec points at and what its own controller writes. -/
structure GatewayResource (Selector : Type) extends GatewayObject Selector where
  /-- `spec.upstream.authSecretRef` -/
  upstreamAuth : Option Bytes
  /-- `spec.upstream.caSecretRef` -/
  upstreamCA : Option SecretKeySelector
  /-- `spec.rateLimit.store.authSecretRef` -/
  storeAuth : Option Bytes
  /-- `spec.rateLimit.store.tls.caSecretRef` -/
  storeCA : Option SecretKeySelector
  generation : Int
  status : GatewayStatus

/-- The configuration Secret. Its text stands here as the configuration that was marshalled. -/
structure ConfigSecretObject where
  labels : Labels
  type : Bytes
  ownerReferences : List OwnerReference
  config : DataplaneConfig
  metricsToken : Bytes
  deriving DecidableEq, Repr

/-- A gateway and its configuration Secret, as the API server has them. -/
structure GatewayStored (Selector : Type) where
  gateway : Option (GatewayResource Selector)
  configSecret : Option ConfigSecretObject

/-- How the calls of one reconciliation end that these two objects and the accounts do not decide:
the error of an API call that fails, what the gateway's own Secrets hold, the random bytes, the sizes
of marshalled text, and the results of the two sorts. -/
structure GatewayCalls where
  getGateway : Option Bytes
  /-- `APIReader.Get` of a Secret by its namespace and name; a key that is missing reads as the empty
  string. -/
  readSecret : Bytes → Bytes → Except Bytes (Bytes → Bytes)
  /-- `APIReader.Get` of the configuration Secret. -/
  readConfigSecret : Option Bytes
  random : Except Bytes { buf : Bytes // buf.length = PasswordBytes }
  /-- `reconcileCertificate` -/
  certificate : Option Bytes
  createOrUpdate : CreateOrUpdate ConfigSecretObject
  setControllerReference : List OwnerReference → Except Bytes (List OwnerReference)
  /-- `reconcileService` -/
  service : Option Bytes
  /-- `reconcileMetrics` -/
  metrics : Option Bytes
  /-- `reconcileDeployment`, with the replicas that are available. -/
  deployment : Except Bytes Int
  patchStatus : Option Bytes
  setStatusCondition : SetStatusCondition
  marshaller : Marshaller
  sortByUsername : List Account → List Account
  sorts_username : ∀ accounts, SortsBy Account.username accounts (sortByUsername accounts)
  sortBySize : List Account → List Sized → List Sized
  sorts_size : ∀ accounts order, Sorts (larger accounts) order (sortBySize accounts order)

/-! ## Reading -/

section
variable (calls : GatewayCalls)

/-- The reads of `resolveSecrets`: some keys of a Secret of the gateway's namespace, one of which must
be there. -/
def readKeys (ns : Bytes) (what name required : Bytes) : Except Bytes (Bytes → Bytes) :=
  match calls.readSecret ns name with
  | .error err => .error (what ++ lit " Secret " ++ ns ++ lit "/" ++ name ++ lit ": " ++ err)
  | .ok data =>
    if data required = [] then
      .error (what ++ lit " Secret " ++ ns ++ lit "/" ++ name ++ lit " has no " ++ required ++ lit " key")
    else .ok data

/-- The username and the password of a Secret, one of which must be there. -/
def readBasicAuth (ns what required : Bytes) : Option Bytes → Except Bytes (Bytes × Bytes)
  | none => .ok ([], [])
  | some name =>
    (readKeys calls ns what name required).map fun data => (data (lit "username"), data (lit "password"))

/-- The certificate of a CA. -/
def readCA (ns what : Bytes) : Option SecretKeySelector → Except Bytes Bytes
  | none => .ok []
  | some ref =>
    let caKey := if ref.key = [] then lit "ca.crt" else ref.key
    (readKeys calls ns what ref.name caKey).map fun data => data caKey

/-- `resolveRateLimitSecrets`. -/
def resolveRateLimitSecrets (gw : GatewayResource Selector) : Except Bytes RateLimitCredentials :=
  match gw.rateLimit with
  | none => .ok ⟨[], [], [], [], []⟩
  | some spec => do
    let (username, password) ←
      readBasicAuth calls gw.namespace_ (lit "rate limit store auth") (lit "password") gw.storeAuth
    let (sentinelUsername, sentinelPassword) ←
      readBasicAuth calls gw.namespace_ (lit "rate limit store sentinel auth") (lit "password")
        spec.store.sentinelAuthSecretRef
    let caPEM ← readCA calls gw.namespace_ (lit "rate limit store CA")
      (if spec.store.tls.isSome then gw.storeCA else none)
    pure ⟨username, password, sentinelUsername, sentinelPassword, caPEM⟩

/-- `resolveSecrets`, on an input with the accounts. -/
def resolveSecrets (gw : GatewayResource Selector) (accounts : List Account) :
    Except Bytes (Input Selector) := do
  let (username, password) ←
    readBasicAuth calls gw.namespace_ (lit "upstream auth") (lit "username") gw.upstreamAuth
  let caPEM ← readCA calls gw.namespace_ (lit "upstream CA") gw.upstreamCA
  let store ← resolveRateLimitSecrets calls gw
  pure {
    gateway := some gw.toGatewayObject
    accounts := accounts
    upstreamUsername := username
    upstreamPassword := password
    upstreamCAPEM := caPEM
    rateLimitStore := store
    metricsToken := [] }

/-- `ConfigSecretName`. -/
def ConfigSecretName (gatewayName : Bytes) : Bytes := gatewayName ++ lit "-config"

/-- `metricsToken`: the token in service, or a new one. -/
def metricsToken (gw : GatewayResource Selector) (secret : Option ConfigSecretObject) :
    Except Bytes Bytes :=
  match calls.readConfigSecret with
  | some err => .error (lit "get configuration secret " ++ gw.namespace_ ++ lit "/" ++
      ConfigSecretName gw.name ++ lit ": " ++ err)
  | none =>
    let token := secret.elim [] ConfigSecretObject.metricsToken
    if token ≠ [] then .ok token
    else
      match calls.random with
      | .error err => .error (lit "generate metrics token: generate password: " ++ err)
      | .ok buf => .ok (rawURLEncoding buf.1)

/-- How `Reconcile` goes on after it has read everything: it returns an error, ends in `markFailed`, or
publishes a configuration. -/
inductive Plan where
  | fail (err : Bytes)
  | markFailed (reason message : Bytes)
  | publish (accounts : List Account) (cfg : DataplaneConfig)

/-- `collectAccounts`, with the list it reads. -/
def Cluster.collect (c : Cluster Selector) (gw : GatewayResource Selector) :
    Except Bytes (List Account) :=
  match c.listAccounts with
  | .error err => .error (lit "list accounts: " ++ err)
  | .ok list => c.reconciler.collectAccounts gw.toMailoutGateway list

/-- `Reconcile`, from the check of the namespace to that of the configuration. -/
def Cluster.plan (c : Cluster Selector) (gw : GatewayResource Selector)
    (secret : Option ConfigSecretObject) : Plan :=
  if gw.namespace_ ≠ c.operatorNamespace then
    .markFailed (lit "InvalidSpec") (lit "gateways are only served in the operator namespace (" ++
      c.operatorNamespace ++ lit ")")
  else
    match c.collect gw with
    | .error err => .fail err
    | .ok accounts =>
      match resolveSecrets calls gw accounts with
      | .error err => .markFailed (lit "SecretMissing") err
      | .ok input =>
        match metricsToken calls gw secret with
        | .error err => .fail err
        | .ok token =>
          match GatewayConfig { input with metricsToken := token } (calls.sortByUsername accounts) with
          | .error err => .markFailed (lit "InvalidSpec") err
          | .ok cfg =>
            match cfg.validate c.quote with
            | .error err => .markFailed (lit "InvalidSpec") err
            | .ok () => .publish accounts cfg

/-! ## Writing -/

/-- A step that ends as it is given to. -/
def ends (err : Option Bytes) : Comp Bytes (GatewayStored Selector) Unit :=
  match err with
  | some err => Comp.fail err
  | none => pure ()

/-- `Labels`. -/
def gatewayLabels (gatewayName : Bytes) : Labels :=
  [(lit "app.kubernetes.io/name", lit "mailout"),
   (lit "app.kubernetes.io/instance", gatewayName),
   (lit "app.kubernetes.io/component", lit "gateway"),
   (lit "app.kubernetes.io/managed-by", lit "mailout-operator")]

/-- `ConfigSecret`, with the owners the Secret gets. -/
def ConfigSecret (gw : GatewayResource Selector) (cfg : DataplaneConfig)
    (owners : List OwnerReference) : ConfigSecretObject where
  labels := gatewayLabels gw.name
  type := lit "Opaque"
  ownerReferences := owners
  config := cfg
  metricsToken := cfg.metricsToken

/-- `ConfigBudget`. -/
def ConfigBudget : Int := 700 * 1024

/-- The function `reconcileConfigSecret` gives to `CreateOrUpdate`. -/
def mutateConfigSecret (gw : GatewayResource Selector) (cfg : DataplaneConfig)
    (existing : Option ConfigSecretObject) : Except Bytes ConfigSecretObject :=
  match calls.setControllerReference (existing.elim [] (·.ownerReferences)) with
  | .error err => .error err
  | .ok owners => .ok (ConfigSecret gw cfg owners)

/-- What `FitAccounts` makes of a configuration under `ConfigBudget`: the usernames it drops, and what
is left. -/
def fitted (cfg : DataplaneConfig) : List Bytes × DataplaneConfig :=
  FitAccounts calls.marshaller (calls.sortBySize cfg.accounts) cfg ConfigBudget

/-- `reconcileConfigSecret`, with the configuration it leaves. -/
def reconcileConfigSecret (gw : GatewayResource Selector) (cfg : DataplaneConfig) :
    Comp Bytes (GatewayStored Selector) DataplaneConfig :=
  let cfg := (fitted calls cfg).2
  match calls.marshaller.config cfg with
  | .error err => Comp.fail (lit "marshal configuration: " ++ err)
  | .ok _ => do
    let s ← Comp.get
    match calls.createOrUpdate.run (mutateConfigSecret calls gw cfg) s.configSecret with
    | .error err => Comp.fail (lit "reconcile configuration secret: " ++ err)
    | .ok secret =>
      Comp.modify fun s => { s with configSecret := some secret }
      pure cfg

/-- `Status().Patch`, with the status the gateway is to have. -/
def patchGatewayStatus (status : GatewayStatus) : Comp Bytes (GatewayStored Selector) Unit :=
  match calls.patchStatus with
  | some err => Comp.fail err
  | none => Comp.modify fun s =>
      { s with gateway := s.gateway.map fun gw => { gw with status := status } }

/-- `updateStatus`. -/
def updateStatus (gw : GatewayResource Selector) (cfg : DataplaneConfig) (accounts : List Account)
    (availableReplicas : Int) : Comp Bytes (GatewayStored Selector) Unit :=
  let set := setCondition calls.setStatusCondition
  let accepted := set gw.status.conditions .accepted true (lit "Accepted")
    (lit "Gateway configuration is valid") gw.generation
  patchGatewayStatus calls
    { conditions :=
        if availableReplicas > 0 then
          set accepted .ready true (lit "Ready")
            (formatInt availableReplicas ++ lit " replica(s) available") gw.generation
        else
          set accepted .ready false (lit "DeploymentNotReady")
            (lit "Waiting for the gateway pods to become available") gw.generation
      observedGeneration := gw.generation
      acceptedAccounts := int32 accounts.length
      listeners := ListenerStatuses cfg
      serviceName := gw.name }

/-- `markFailed`. -/
def markFailed (gw : GatewayResource Selector) (reason message : Bytes) :
    Comp Bytes (GatewayStored Selector) Unit :=
  let set := setCondition calls.setStatusCondition
  patchGatewayStatus calls { gw.status with
    observedGeneration := gw.generation
    conditions := set (set gw.status.conditions .accepted false reason message gw.generation)
      .ready false reason message gw.generation }

/-- `Reconcile`, from the certificate to the status. -/
def publish (gw : GatewayResource Selector) (cfg : DataplaneConfig) (accounts : List Account) :
    Comp Bytes (GatewayStored Selector) Unit := do
  ends calls.certificate
  let cfg ← reconcileConfigSecret calls gw cfg
  ends calls.service
  ends calls.metrics
  let availableReplicas ← Comp.ofExcept calls.deployment
  updateStatus calls gw cfg accounts availableReplicas

/-- How a reconciliation ends that returns no error. -/
inductive GatewayResult where
  | gone
  | failed
  | reconciled
  deriving DecidableEq, Repr

/-- `GatewayReconciler.Reconcile`. -/
def GatewayReconcile (c : Cluster Selector) : Comp Bytes (GatewayStored Selector) GatewayResult := do
  let s ← Comp.get
  match calls.getGateway with
  | some err => Comp.fail err
  | none =>
    match s.gateway with
    | none => pure .gone
    | some gw =>
      match c.plan calls gw s.configSecret with
      | .fail err => Comp.fail err
      | .markFailed reason message => do
        markFailed calls gw reason message
        pure .failed
      | .publish accounts cfg => do
        publish calls gw cfg accounts
        pure .reconciled

end

/-! ## What a reconciliation leaves -/

section
variable {calls : GatewayCalls}

/-- A call that ends well changes nothing that is modelled here. -/
theorem ends_ok {err : Option Bytes} {s s' : GatewayStored Selector}
    (h : (ends err).run s = (.ok (), s')) : s' = s := by
  cases err with
  | some err => cases h
  | none => cases h; rfl

/-- What is to be stored is the configuration Secret, with some owners. -/
theorem mutateConfigSecret_ok {gw : GatewayResource Selector} {cfg : DataplaneConfig}
    {existing : Option ConfigSecretObject} {secret : ConfigSecretObject}
    (h : mutateConfigSecret calls gw cfg existing = .ok secret) :
    ∃ owners, secret = ConfigSecret gw cfg owners := by
  unfold mutateConfigSecret at h
  cases howners : calls.setControllerReference (existing.elim [] (·.ownerReferences)) with
  | error err => rw [howners] at h; cases h
  | ok owners =>
    rw [howners] at h
    exact ⟨owners, (Except.ok.inj h).symm⟩

/-- The configuration Secret holds what `FitAccounts` left of the configuration. -/
theorem reconcileConfigSecret_ok {gw : GatewayResource Selector} {cfg cfg' : DataplaneConfig}
    {s s' : GatewayStored Selector}
    (h : (reconcileConfigSecret calls gw cfg).run s = (.ok cfg', s')) :
    ∃ secret : ConfigSecretObject, secret.config = (fitted calls cfg).2 ∧
      s' = { s with configSecret := some secret } := by
  rw [reconcileConfigSecret] at h
  cases hsize : calls.marshaller.config (fitted calls cfg).2 with
  | error err => simp only [hsize] at h; cases h
  | ok size =>
    simp only [hsize] at h
    rw [Comp.run_bind_of_ok (Comp.run_get s)] at h
    cases hstored : calls.createOrUpdate.run (mutateConfigSecret calls gw (fitted calls cfg).2)
        s.configSecret with
    | error err => rw [hstored] at h; cases h
    | ok secret =>
      rw [hstored] at h
      cases h
      obtain ⟨owners, rfl⟩ := mutateConfigSecret_ok (calls.createOrUpdate.stores hstored)
      exact ⟨_, rfl, rfl⟩

/-- A status patch changes the status alone. -/
theorem patchGatewayStatus_ok {status : GatewayStatus} {s s' : GatewayStored Selector}
    (h : (patchGatewayStatus calls status).run s = (.ok (), s')) :
    s' = { s with gateway := s.gateway.map fun gw => { gw with status := status } } := by
  rw [patchGatewayStatus] at h
  cases hpatch : calls.patchStatus with
  | some err => rw [hpatch] at h; cases h
  | none =>
    rw [hpatch] at h
    exact (congrArg Prod.snd h).symm

/-- The status counts the accounts that were collected. -/
theorem updateStatus_ok {gw : GatewayResource Selector} {cfg : DataplaneConfig}
    {accounts : List Account} {replicas : Int} {s s' : GatewayStored Selector}
    (h : (updateStatus calls gw cfg accounts replicas).run s = (.ok (), s')) :
    ∃ status : GatewayStatus, status.acceptedAccounts = int32 accounts.length ∧
      s' = { s with gateway := s.gateway.map fun gw => { gw with status := status } } := by
  rw [updateStatus] at h
  refine ⟨_, ?_, patchGatewayStatus_ok h⟩
  rfl

/-- What is left by a reconciliation that goes through. -/
theorem publish_ok {gw : GatewayResource Selector} {cfg : DataplaneConfig} {accounts : List Account}
    {s s' : GatewayStored Selector} (h : (publish calls gw cfg accounts).run s = (.ok (), s')) :
    ∃ (secret : ConfigSecretObject) (status : GatewayStatus),
      secret.config = (fitted calls cfg).2 ∧ status.acceptedAccounts = int32 accounts.length ∧
      s'.configSecret = some secret ∧
      s'.gateway = s.gateway.map fun gw => { gw with status := status } := by
  obtain ⟨_, s₁, hcertificate, h⟩ := Comp.run_bind_ok h
  obtain ⟨cfg', s₂, hconfig, h⟩ := Comp.run_bind_ok h
  obtain ⟨_, s₃, hservice, h⟩ := Comp.run_bind_ok h
  obtain ⟨_, s₄, hmetrics, h⟩ := Comp.run_bind_ok h
  obtain ⟨replicas, s₅, hdeployment, h⟩ := Comp.run_bind_ok h
  obtain rfl := ends_ok hcertificate
  obtain ⟨secret, hsecret, rfl⟩ := reconcileConfigSecret_ok hconfig
  obtain rfl := ends_ok hservice
  obtain rfl := ends_ok hmetrics
  obtain rfl := congrArg Prod.snd hdeployment
  obtain ⟨status, hstatus, rfl⟩ := updateStatus_ok h
  exact ⟨secret, status, hsecret, hstatus, rfl, rfl⟩

/-- A reconciliation that goes through carries out its plan. -/
theorem reconcile_publishes {c : Cluster Selector} {gw : GatewayResource Selector}
    {s s' : GatewayStored Selector} (hgw : s.gateway = some gw)
    (h : (GatewayReconcile calls c).run s = (.ok .reconciled, s')) :
    ∃ accounts cfg, c.plan calls gw s.configSecret = .publish accounts cfg ∧
      (publish calls gw cfg accounts).run s = (.ok (), s') := by
  rw [GatewayReconcile, Comp.run_bind_of_ok (Comp.run_get s)] at h
  cases hget : calls.getGateway with
  | some err => rw [hget] at h; cases h
  | none =>
    simp only [hget, hgw] at h
    cases hplan : c.plan calls gw s.configSecret with
    | fail err => rw [hplan] at h; cases h
    | markFailed reason message =>
      rw [hplan] at h
      obtain ⟨_, s₁, -, hpure⟩ := Comp.run_bind_ok h
      cases hpure
    | publish accounts cfg =>
      rw [hplan] at h
      obtain ⟨_, s₁, hpublish, hpure⟩ := Comp.run_bind_ok h
      cases hpure
      exact ⟨accounts, cfg, rfl, hpublish⟩

/-- What is published is rendered from the accounts that were collected. -/
theorem plan_publish {c : Cluster Selector} {gw : GatewayResource Selector}
    {secret : Option ConfigSecretObject} {accounts : List Account} {cfg : DataplaneConfig}
    (h : c.plan calls gw secret = .publish accounts cfg) :
    c.collect gw = .ok accounts ∧ cfg.accounts = calls.sortByUsername accounts := by
  unfold Cluster.plan at h
  split_ifs at h
  cases hcollect : c.collect gw with
  | error err => simp only [hcollect] at h; cases h
  | ok found =>
    cases hresolve : resolveSecrets calls gw found with
    | error err => simp only [hcollect, hresolve] at h; cases h
    | ok input =>
      cases htoken : metricsToken calls gw secret with
      | error err => simp only [hcollect, hresolve, htoken] at h; cases h
      | ok token =>
        cases hconfig : GatewayConfig { input with metricsToken := token }
            (calls.sortByUsername found) with
        | error err => simp only [hcollect, hresolve, htoken, hconfig] at h; cases h
        | ok rendered =>
          cases hvalid : rendered.validate c.quote with
          | error err => simp only [hcollect, hresolve, htoken, hconfig, hvalid] at h; cases h
          | ok _ =>
            simp only [hcollect, hresolve, htoken, hconfig, hvalid] at h
            cases h
            refine ⟨rfl, ?_⟩
            unfold GatewayConfig at hconfig
            cases hinput : input.gateway with
            | none => simp only [hinput] at hconfig; cases hconfig
            | some gw =>
              simp only [hinput] at hconfig
              cases hconfig
              rfl

/-! ## Which accounts are marked ready -/

/-- The account controller, in the state the cluster is in, marks the account ready, and its Secret
is provisioned: the reconciliation leaves it as it is. -/
structure MarkedReady (bcrypt : Bcrypt) (c : Cluster Selector) (account : AccountObject)
    (secret : SecretObject) : Prop where
  stored : c.getSecretObject account.namespace_ account.secretRefName = .ok (some secret)
  marked : ∃ (calls : Calls bcrypt) (after : AccountObject) (ready : Condition),
    (Reconcile calls c).run ⟨some account, some secret⟩ = (.ok (), ⟨some after, some secret⟩) ∧
      findCondition .ready after.status.conditions = some ready ∧ ready.status = true

variable {bcrypt : Bcrypt} {c : Cluster Selector}

/-- An account that is marked ready was accepted, and its Secret is sound. -/
theorem MarkedReady.accepted {account : AccountObject} {secret : SecretObject}
    (h : MarkedReady bcrypt c account secret) :
    (∃ gw, c.attach account.toMailoutAccount = .ok (.accepted gw)) ∧ secret.Sound bcrypt := by
  obtain ⟨calls, after, ready, hrun, hfind, hready⟩ := h.marked
  rw [Reconcile, Comp.run_bind_of_ok (Comp.run_get _)] at hrun
  cases hget : calls.getAccount with
  | some err => rw [hget] at hrun; cases hrun
  | none =>
    simp only [hget] at hrun
    cases hattach : c.attach account.toMailoutAccount with
    | error err => rw [hattach] at hrun; cases hrun
    | ok attachment =>
      rw [hattach] at hrun
      cases attachment with
      | notAccepted reason message =>
        -- then the condition that was set says so
        have hafter := patchStatus_ok hrun
        rw [Stored.mk.injEq, Option.map_some, Option.some.injEq] at hafter
        rw [hafter.1] at hfind
        have hset := hfind.symm.trans (calls.setStatusCondition.finds
          ⟨.ready, false, reason, message, account.generation⟩ _)
        rw [Option.some.inj hset] at hready
        cases hready
      | accepted gw =>
        refine ⟨⟨gw, rfl⟩, ?_⟩
        obtain ⟨_, s₁, hsecret, hmark⟩ := Comp.run_bind_ok hrun
        rcases reconcileSecret_cases account gw (UsernameFor account.toMailoutAccount)
          ⟨some account, some secret⟩ with ⟨err, hfails⟩ | ⟨found, hcred, hok⟩
        · rw [hfails] at hsecret
          cases hsecret
        · rw [hok] at hsecret
          obtain rfl : _ = s₁ := congrArg Prod.snd hsecret
          have hafter := congrArg Stored.secret (patchStatus_ok hmark)
          obtain rfl : secret = found := Option.some.inj hafter
          exact credentials_sound hcred

/-- The gateway that takes an account. -/
theorem attach_accepted {account : MailoutAccount} {gw : GatewayObject Selector}
    (h : c.attach account = .ok (.accepted gw)) :
    c.getGateway (GatewayNamespaceFor account c.operatorNamespace) account.gatewayRefName =
        .ok (some gw) ∧
      namespaceAllowed c.toClient gw.toMailoutGateway account.namespace_ = .ok true := by
  unfold Cluster.attach at h
  cases hget : c.getGateway (GatewayNamespaceFor account c.operatorNamespace)
      account.gatewayRefName with
  | error err => simp only [hget] at h; cases h
  | ok found =>
    cases found with
    | none => simp only [hget] at h; cases h
    | some gw' =>
      cases hallowed : namespaceAllowed c.toClient gw'.toMailoutGateway account.namespace_ with
      | error err => simp only [hget, hallowed] at h; cases h
      | ok allowed =>
        cases allowed with
        | false => simp only [hget, hallowed] at h; cases h
        | true =>
          cases hlist : c.listAccounts with
          | error err => simp only [hget, hallowed, hlist] at h; cases h
          | ok list =>
            simp only [hget, hallowed, hlist] at h
            split_ifs at h
            · cases h
            · cases h
              exact ⟨rfl, hallowed⟩

/-- An account that is marked ready is collected. -/
theorem MarkedReady.collected {gw : GatewayResource Selector} {account : AccountObject}
    {secret : SecretObject} {list : List MailoutAccount} {accounts : List Account}
    (h : MarkedReady bcrypt c account secret)
    (hsame : c.getGateway gw.namespace_ gw.name = .ok (some gw.toGatewayObject))
    (hlist : c.listAccounts = .ok list) (hmem : account.toMailoutAccount ∈ list)
    (hrefers : c.reconciler.refersTo gw.toMailoutGateway account.toMailoutAccount = true)
    (hcollect : c.collect gw = .ok accounts) :
    ∃ acct ∈ accounts,
      c.reconciler.collectAccount gw.toMailoutGateway account.toMailoutAccount = .ok (some acct) := by
  obtain ⟨⟨gw', hattach⟩, hsound⟩ := h.accepted
  obtain ⟨hget, hallowed⟩ := attach_accepted hattach
  have hrefers' := hrefers
  rw [Reconciler.refersTo, Bool.and_eq_true, beq_iff_eq, beq_iff_eq] at hrefers'
  have hns : GatewayNamespaceFor account.toMailoutAccount c.operatorNamespace = gw.namespace_ :=
    hrefers'.1
  rw [hns, hrefers'.2, hsame] at hget
  obtain rfl : gw.toGatewayObject = gw' := Option.some.inj (Except.ok.inj hget)
  have hsecret : c.reconciler.getSecret account.namespace_ account.secretRefName =
      .ok (some secret.toSecret) := by
    simp only [Cluster.reconciler, h.stored]
    rfl
  rw [Cluster.collect, hlist] at hcollect
  obtain ⟨hreads, rfl⟩ := Reconciler.collectAccounts_eq_ok.mp hcollect
  obtain ⟨found, hfound⟩ := hreads _ hmem
  have hallowed' : namespaceAllowed c.reconciler.toClient gw.toMailoutGateway account.namespace_ =
      .ok true := hallowed
  cases found with
  | some acct =>
    exact ⟨acct, List.mem_filterMap.mpr ⟨_, hmem, Reconciler.entry_eq_some.mpr hfound⟩, hfound⟩
  | none =>
    -- it refers to the gateway, is allowed, and has a hash
    simp only [Reconciler.collectAccount, hrefers, not_true_eq_false, if_false, hallowed', hsecret,
      hsound.hash] at hfound
    split at hfound <;> cases hfound

/-! ## What the status says -/

/-- Every account of the gateway that is marked ready is served. -/
def ReadyServed (bcrypt : Bcrypt) (c : Cluster Selector) (gw : GatewayResource Selector)
    (served : List Account) : Prop :=
  ∀ (account : AccountObject) (secret : SecretObject) (list : List MailoutAccount),
    c.listAccounts = .ok list → account.toMailoutAccount ∈ list →
    c.reconciler.refersTo gw.toMailoutGateway account.toMailoutAccount = true →
    MarkedReady bcrypt c account secret →
    ∃ acct ∈ served,
      c.reconciler.collectAccount gw.toMailoutGateway account.toMailoutAccount = .ok (some acct)

/-- A count that fits an `int32` is reported as it is. -/
theorem int32_of_lt {n : Nat} (h : n < 2 ^ 31) : int32 n = n := by
  unfold int32
  omega

/-- **The status tells the truth about who is served**, after a reconciliation that goes through: it
counts the accounts that are served from the configuration it wrote, and every account that is marked
ready is among them, if and only if no account was dropped to fit the budget and none is rejected by
the dataplane. -/
theorem status_truthful_iff (bcrypt : Bcrypt) (calls : GatewayCalls) (c : Cluster Selector)
    (gw : GatewayResource Selector) (s s' : GatewayStored Selector) (accounts : List Account)
    (cfg : DataplaneConfig) (hgw : s.gateway = some gw)
    (hsame : c.getGateway gw.namespace_ gw.name = .ok (some gw.toGatewayObject))
    (hplan : c.plan calls gw s.configSecret = .publish accounts cfg)
    (hcount : accounts.length < 2 ^ 31)
    (hrun : (GatewayReconcile calls c).run s = (.ok .reconciled, s')) :
    ∃ gw' secret, s'.gateway = some gw' ∧ s'.configSecret = some secret ∧
      ((gw'.status.acceptedAccounts = (PartitionAccounts bcrypt secret.config.accounts).1.length ∧
          ReadyServed bcrypt c gw (PartitionAccounts bcrypt secret.config.accounts).1) ↔
        (fitted calls cfg).1 = [] ∧ (PartitionAccounts bcrypt cfg.accounts).2 = []) := by
  obtain ⟨accounts', cfg', hplan', hpublish⟩ := reconcile_publishes hgw hrun
  rw [hplan] at hplan'
  cases hplan'
  obtain ⟨secret, status, hconfig, hstatus, hsecret, hgateway⟩ := publish_ok hpublish
  obtain ⟨hcollect, hsorted⟩ := plan_publish hplan
  have hperm : cfg.accounts.Perm accounts := hsorted ▸ (calls.sorts_username accounts).perm
  have hshrinks : fitted calls cfg = ([], cfg) ∨ (fitted calls cfg).1 ≠ [] ∧
      (fitted calls cfg).2.accounts.length < cfg.accounts.length :=
    FitAccounts_shrinks calls.marshaller
      (fun order => (calls.sorts_size cfg.accounts order).perm) ConfigBudget
  refine ⟨_, secret, by rw [hgateway, hgw, Option.map_some], hsecret, ?_⟩
  dsimp only
  rw [hstatus, hconfig, int32_of_lt hcount, Int.natCast_inj]
  have hsum := @length_partitionFrom bcrypt (fitted calls cfg).2.accounts (fun _ => false) 0
  rw [← PartitionAccounts] at hsum
  constructor
  · rintro ⟨hlen, -⟩
    rcases hshrinks with hkept | ⟨-, hshorter⟩
    · rw [hkept] at hlen hsum ⊢
      dsimp only at hlen hsum
      refine ⟨rfl, List.length_eq_zero_iff.mp ?_⟩
      rw [← hlen, hperm.length_eq] at hsum
      omega
    · rw [← hlen] at hsum
      rw [hperm.length_eq] at hshorter
      omega
  · rintro ⟨hnone, hrejected⟩
    have hkept : fitted calls cfg = ([], cfg) := hshrinks.resolve_right fun h => h.1 hnone
    have hserved : (PartitionAccounts bcrypt cfg.accounts).1 = cfg.accounts :=
      partitionFrom_of_nil hrejected
    rw [hkept, hserved]
    refine ⟨hperm.length_eq.symm, fun account secret list hlist hmem hrefers hready => ?_⟩
    obtain ⟨acct, hacct, hentry⟩ := hready.collected hsame hlist hmem hrefers hcollect
    exact ⟨acct, hperm.mem_iff.mpr hacct, hentry⟩

end

/-! ## An account that is ready and not served -/

/-- An account of the namespace `shop` with this name, and without a username of its own. -/
def namedAccount (name : Bytes) : AccountObject where
  toMailoutAccount := { accountIn (lit "shop") with name := name }
  generation := 1
  rotation := []
  status := ⟨[], 0, [], [], [], []⟩

/-- Its Secret, as the account controller writes it. -/
def namedSecret (name : Bytes) : SecretObject :=
  AccountSecret (namedAccount name).toMailoutAccount
    (UsernameFor (namedAccount name).toMailoutAccount) (lit "pw") (lit "pw")
    ⟨lit "gw.mailout-system.svc", 587, lit "starttls"⟩ (lit "mailout-system") []

/-- A cluster with this account, and its Secret. -/
def namedCluster (name : Bytes) : Cluster (Bytes × Bytes) :=
  { sharedCluster .all with
    listAccounts := .ok [(namedAccount name).toMailoutAccount]
    getSecretObject := fun _ _ => .ok (some (namedSecret name)) }

/-- The gateway of the cluster. -/
def sharedResource : GatewayResource (Bytes × Bytes) where
  toGatewayObject := sharedGateway .all
  upstreamAuth := none
  upstreamCA := none
  storeAuth := none
  storeCA := none
  generation := 1
  status := ⟨[], 0, 0, [], []⟩

/-- A reconciliation in which no call fails and every configuration fits. -/
def smoothCalls : GatewayCalls where
  getGateway := none
  readSecret := fun _ _ => .ok fun _ => []
  readConfigSecret := none
  random := .ok ⟨List.replicate PasswordBytes 1, List.length_replicate⟩
  certificate := none
  createOrUpdate := .direct
  setControllerReference := .ok
  service := none
  metrics := none
  deployment := .ok 1
  patchStatus := none
  setStatusCondition := .latestFirst
  marshaller := measure (fun _ => 0) fun _ => 0
  sortByUsername := fun accounts => accounts.insertionSort fun a b => a.username ≤ b.username
  sorts_username := by
    intro accounts
    have htotal : Std.Total fun a b : Account => a.username ≤ b.username :=
      ⟨fun a b => List.le_total _ _⟩
    have htrans : IsTrans Account fun a b => a.username ≤ b.username :=
      ⟨fun a b c hab hbc => List.le_trans hab hbc⟩
    exact ⟨List.perm_insertionSort _ _, List.pairwise_insertionSort _ _⟩
  sortBySize := largestFirst
  sorts_size := sorts_largestFirst

/-- The first reconciliation of that gateway. -/
def smoothRun (name : Bytes) : Except Bytes GatewayResult × GatewayStored (Bytes × Bytes) :=
  (GatewayReconcile smoothCalls (namedCluster name)).run ⟨some sharedResource, none⟩

/-- For a gateway with one account, as it is reconciled. -/
theorem status_truthful_app :
    ∃ s' accounts cfg, smoothRun (lit "app") = (.ok .reconciled, s') ∧
      ∃ gw' secret, s'.gateway = some gw' ∧ s'.configSecret = some secret ∧
        ((gw'.status.acceptedAccounts =
              (PartitionAccounts clearBcrypt secret.config.accounts).1.length ∧
            ReadyServed clearBcrypt (namedCluster (lit "app")) sharedResource
              (PartitionAccounts clearBcrypt secret.config.accounts).1) ↔
          (fitted smoothCalls cfg).1 = [] ∧ (PartitionAccounts clearBcrypt cfg.accounts).2 = []) ∧
        (namedCluster (lit "app")).collect sharedResource = .ok accounts := by
  have hok : (smoothRun (lit "app")).1 = .ok .reconciled := by decide +kernel
  have hrun : smoothRun (lit "app") = (.ok .reconciled, (smoothRun (lit "app")).2) := Prod.ext hok rfl
  obtain ⟨accounts, cfg, hplan, -⟩ := reconcile_publishes rfl hrun
  have hcollect := (plan_publish hplan).1
  have hcount : accounts.length < 2 ^ 31 := by
    obtain ⟨-, rfl⟩ := Reconciler.collectAccounts_eq_ok.mp hcollect
    exact lt_of_le_of_lt (List.length_filterMap_le _ _) (by decide)
  obtain ⟨gw', secret, hgw', hsecret, hiff⟩ := status_truthful_iff clearBcrypt smoothCalls
    (namedCluster (lit "app")) sharedResource _ _ accounts cfg rfl rfl hplan hcount hrun
  exact ⟨_, accounts, cfg, hrun, gw', secret, hgw', hsecret, hiff, hcollect⟩

/-- An object name for which the default username is too long. -/
def longName : Bytes := List.replicate 130 0x61

/-- A reconciliation of the account with that name. -/
def longRun : Except Bytes Unit × Stored :=
  (Reconcile (drawing 1 none) (namedCluster longName)).run
    ⟨some (namedAccount longName), some (namedSecret longName)⟩

/-- An account whose username is too long is marked ready by its own controller. -/
theorem markedReady_longName : MarkedReady clearBcrypt (namedCluster longName)
    (namedAccount longName) (namedSecret longName) := by
  refine ⟨rfl, ?_⟩
  have hok : longRun.1 = .ok () := by decide +kernel
  have hkept : longRun.2.secret = some (namedSecret longName) := by decide +kernel
  have hready : ∃ ready ∈ (longRun.2.account.bind fun after =>
      findCondition .ready after.status.conditions), ready.status = true := by decide +kernel
  obtain ⟨ready, hmem, htrue⟩ := hready
  obtain ⟨after, hafter, hfind⟩ := Option.bind_eq_some_iff.mp hmem
  refine ⟨drawing 1 none, after, ready, ?_, hfind, htrue⟩
  calc longRun = (.ok (), longRun.2) := Prod.ext hok rfl
    _ = (.ok (), ⟨some after, some (namedSecret longName)⟩) := by rw [← hafter, ← hkept]

/-- The account is marked ready and the gateway counts it, and nobody can log in with it: its username
is one the dataplane does not serve. -/
theorem ready_not_served :
    (smoothRun longName).1 = .ok .reconciled ∧
    (∃ gw', (smoothRun longName).2.gateway = some gw' ∧ gw'.status.acceptedAccounts = 1) ∧
    (∃ secret, (smoothRun longName).2.configSecret = some secret ∧
      secret.config.accounts.length = 1 ∧
      (PartitionAccounts clearBcrypt secret.config.accounts).1 = []) ∧
    MarkedReady clearBcrypt (namedCluster longName) (namedAccount longName) (namedSecret longName) := by
  have hsome : (smoothRun longName).2.gateway.isSome ∧ (smoothRun longName).2.configSecret.isSome := by
    decide +kernel
  have hgateway : ∀ gw' ∈ (smoothRun longName).2.gateway, gw'.status.acceptedAccounts = 1 := by
    decide +kernel
  have hsecret : ∀ secret ∈ (smoothRun longName).2.configSecret,
      secret.config.accounts.length = 1 ∧
      (PartitionAccounts clearBcrypt secret.config.accounts).1 = [] := by decide +kernel
  obtain ⟨gw', hgw'⟩ := Option.isSome_iff_exists.mp hsome.1
  obtain ⟨secret, hsec⟩ := Option.isSome_iff_exists.mp hsome.2
  exact ⟨by decide +kernel, ⟨gw', hgw', hgateway gw' hgw'⟩, ⟨secret, hsec, hsecret secret hsec⟩,
    markedReady_longName⟩

end Mailout
