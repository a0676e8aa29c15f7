import Mailout.Controller
import Mailout.Go.Comp
import Mailout.Render

/-!
# The account controller

`internal/controller/account_controller.go`: whether an account is accepted (`Cluster.attach`, the part
of `Reconcile` before it writes), the Secret that is written for it, with the password and its hash
(`reconcileSecret`), and the status (`markReady`, `markNotAccepted`). The Secret and the status are
two writes, and either of them can fail.

`reconciled` is what one reconciliation can do to the two objects.
-/

namespace Mailout

open Go

/-! ## The objects -/

/-- The types of the conditions of an account. -/
inductive ConditionType where
  | accepted
  | ready
  deriving DecidableEq, Repr

/-- `metav1.Condition`, without the time of its last transition. -/
structure Condition where
  type : ConditionType
  status : Bool
  reason : Bytes
  message : Bytes
  observedGeneration : Int
  deriving DecidableEq, Repr

/-- The condition of a type. -/
def findCondition (type : ConditionType) (conditions : List Condition) : Option Condition :=
  conditions.find? fun c => c.type = type

/-- `meta.SetStatusCondition`: a condition that was set is the one of its type. -/
structure SetStatusCondition where
  set : Condition → List Condition → List Condition
  finds : ∀ c conditions, findCondition c.type (set c conditions) = some c

/-- `setCondition`. -/
def setCondition (meta_ : SetStatusCondition) (conditions : List Condition) (type : ConditionType)
    (status : Bool) (reason message : Bytes) (generation : Int) : List Condition :=
  meta_.set ⟨type, status, reason, message, generation⟩ conditions

/-- `MailoutAccountStatus`. -/
structure AccountStatus where
  conditions : List Condition
  observedGeneration : Int
  username : Bytes
  secretName : Bytes
  gateway : Bytes
  rotationObserved : Bytes
  deriving DecidableEq, Repr

/-- `MailoutAccount`, with what its own controller reads and writes of it. -/
structure AccountObject extends MailoutAccount where
  generation : Int
  rotation : Bytes
  status : AccountStatus
  deriving DecidableEq, Repr

/-- `metav1.OwnerReference`. -/
structure OwnerReference where
  kind : Bytes
  name : Bytes
  uid : Bytes
  controller : Bool
  deriving DecidableEq, Repr

/-- `corev1.Secret`, with the keys an account's Secret has. A key that is missing reads as the empty
string. -/
structure SecretObject extends Secret where
  labels : Labels
  type : Bytes
  ownerReferences : List OwnerReference
  username : Bytes
  password : Bytes
  host : Bytes
  port : Bytes
  tls : Bytes
  deriving DecidableEq, Repr

/-- What the API server answers to the reads of the account controller and of the webhooks. -/
structure Cluster (Selector : Type) extends Client Selector where
  operatorNamespace : Bytes
  /-- `Get` of a gateway by its namespace and name, `none` if there is none. -/
  getGateway : Bytes → Bytes → Except Bytes (Option (GatewayObject Selector))
  /-- `List` of the accounts of all namespaces. -/
  listAccounts : Except Bytes (List MailoutAccount)
  /-- `Get` of a Secret by its namespace and name, `none` if there is none. -/
  getSecretObject : Bytes → Bytes → Except Bytes (Option SecretObject)

variable {Selector : Type}

/-- The controllers, reading from the cluster. -/
def Cluster.reconciler (c : Cluster Selector) : Reconciler Selector where
  toClient := c.toClient
  operatorNamespace := c.operatorNamespace
  getSecret := fun ns name => (c.getSecretObject ns name).map (Option.map SecretObject.toSecret)

/-! ## Whether an account is accepted -/

/-- How `Reconcile` ends before it writes: in `markNotAccepted`, or with the gateway that takes the
account. -/
inductive Attachment (Selector : Type) where
  | notAccepted (reason message : Bytes)
  | accepted (gw : GatewayObject Selector)

/-- `Reconcile`, from the lookup of the gateway to the check of the username. -/
def Cluster.attach (c : Cluster Selector) (account : MailoutAccount) :
    Except Bytes (Attachment Selector) :=
  let gatewayNamespace := GatewayNamespaceFor account c.operatorNamespace
  match c.getGateway gatewayNamespace account.gatewayRefName with
  | .error err => .error (lit "get gateway: " ++ err)
  | .ok none => .ok (.notAccepted (lit "GatewayNotFound")
      (lit "MailoutGateway " ++ gatewayNamespace ++ lit "/" ++ account.gatewayRefName ++
        lit " not found"))
  | .ok (some gw) =>
    match namespaceAllowed c.toClient gw.toMailoutGateway account.namespace_ with
    | .error err => .error err
    | .ok false => .ok (.notAccepted (lit "NamespaceNotAllowed")
        (lit "MailoutGateway " ++ gw.namespace_ ++ lit "/" ++ gw.name ++
          lit " does not accept accounts from namespace " ++ account.namespace_))
    | .ok true =>
      let username := UsernameFor account
      match c.listAccounts with
      | .error err => .error (lit "list accounts: " ++ err)
      | .ok accounts =>
        if c.reconciler.usernameConflict account gw.toMailoutGateway username accounts ≠ [] then
          .ok (.notAccepted (lit "UsernameConflict")
            (lit "username " ++ c.quote username ++ lit " is already taken on this gateway"))
        else .ok (.accepted gw)

/-! ## The generated credentials -/

/-- `BcryptCost`. -/
def BcryptCost : Int := 12

/-- `PasswordBytes`. -/
def PasswordBytes : Nat := 24

/-- A digit of `base64.URLEncoding`. -/
def base64URL (n : Nat) : UInt8 :=
  (lit "ABCDEFGHIJKLMNOPQRSTUVWXYZabcdefghijklmnopqrstuvwxyz0123456789-_").getD n 0

/-- `base64.RawURLEncoding.EncodeToString`. -/
def rawURLEncoding : Bytes → Bytes
  | a :: b :: c :: rest =>
    let n := a.toNat * 65536 + b.toNat * 256 + c.toNat
    base64URL (n / 262144) :: base64URL (n / 4096 % 64) :: base64URL (n / 64 % 64) ::
      base64URL (n % 64) :: rawURLEncoding rest
  | [a, b] =>
    let n := (a.toNat * 256 + b.toNat) * 4
    [base64URL (n / 4096), base64URL (n / 64 % 64), base64URL (n % 64)]
  | [a] => [base64URL (a.toNat * 16 / 64), base64URL (a.toNat * 16 % 64)]
  | [] => []

/-- `controllerutil.CreateOrUpdate` of one object, as its calls of the API server end: the object that is
stored when it returns, given the function that changes it and the object that was there. Without an
error, that is the object the function made; with one, nothing was stored. -/
structure CreateOrUpdate (α : Type) where
  run : (Option α → Except Bytes α) → Option α → Except Bytes α
  stores : ∀ {mutate old new}, run mutate old = .ok new → mutate old = .ok new

/-- How the calls of one reconciliation end that the account's objects do not decide: the error of an
API call that fails, the random bytes, and what bcrypt, apimachinery and controller-runtime return. A
hash that is generated is not empty, has the cost that was asked for, and verifies its password. -/
structure Calls (bcrypt : Bcrypt) where
  getAccount : Option Bytes
  createOrUpdate : CreateOrUpdate SecretObject
  patchStatus : Option Bytes
  setStatusCondition : SetStatusCondition
  /-- `rand.Read` -/
  random : Except Bytes { buf : Bytes // buf.length = PasswordBytes }
  /-- `bcrypt.GenerateFromPassword` at `BcryptCost` -/
  generateFromPassword : Bytes → Except Bytes Bytes
  generate_ne_nil : ∀ {p h}, generateFromPassword p = .ok h → h ≠ []
  cost_generate : ∀ {p h}, generateFromPassword p = .ok h → bcrypt.cost h = some BcryptCost
  compares_generate : ∀ {p h}, generateFromPassword p = .ok h → bcrypt.compares h p = true
  /-- `controllerutil.SetControllerReference`, on the owners the Secret has -/
  setControllerReference : AccountObject → List OwnerReference → Except Bytes (List OwnerReference)

section
variable {bcrypt : Bcrypt} (calls : Calls bcrypt)

/-- `GeneratePassword`. -/
def GeneratePassword : Except Bytes Bytes :=
  match calls.random with
  | .error err => .error (lit "generate password: " ++ err)
  | .ok buf => .ok (rawURLEncoding buf.1)

/-- `HashPassword`. -/
def HashPassword (password : Bytes) : Except Bytes Bytes :=
  match calls.generateFromPassword password with
  | .error err => .error (lit "hash password: " ++ err)
  | .ok h => .ok h

/-- The first part of the function `reconcileSecret` gives to `CreateOrUpdate`: the password and the
hash of the Secret, or new ones. -/
def credentials (rotationChanged : Bool) (existing : Option SecretObject) :
    Except Bytes (Bytes × Bytes) :=
  let password := existing.elim [] (·.password)
  let hash := existing.elim [] (·.passwordHash)
  if password = [] ∨ hash = [] ∨ rotationChanged ∨ ¬ UsableHash bcrypt hash then
    match GeneratePassword calls with
    | .error err => .error err
    | .ok password =>
      match HashPassword calls password with
      | .error err => .error err
      | .ok hash => .ok (password, hash)
  else .ok (password, hash)

/-! ## The two writes -/

/-- The account and the Secret it names, as the API server has them. -/
structure Stored where
  account : Option AccountObject
  secret : Option SecretObject
  deriving DecidableEq, Repr

/-- `accountSecretLabels`. -/
def accountSecretLabels (account : MailoutAccount) (gatewayNamespace : Bytes) : Labels :=
  [(lit "app.kubernetes.io/name", lit "mailout"),
   (lit "app.kubernetes.io/component", lit "account"),
   (lit "app.kubernetes.io/managed-by", lit "mailout-operator"),
   (lit "mailout.daly.nc/account", account.name),
   (lit "mailout.daly.nc/gateway", account.gatewayRefName),
   (lit "mailout.daly.nc/gateway-namespace", gatewayNamespace)]

/-- `AccountSecret`, with the owners the Secret gets. -/
def AccountSecret (account : MailoutAccount) (username password passwordHash : Bytes)
    (endpoint : Endpoint) (gatewayNamespace : Bytes) (owners : List OwnerReference) :
    SecretObject where
  labels := accountSecretLabels account gatewayNamespace
  type := lit "kubernetes.io/basic-auth"
  ownerReferences := owners
  username := username
  password := password
  passwordHash := passwordHash
  host := endpoint.host
  port := formatInt endpoint.port
  tls := endpoint.tls

/-- The input of `GatewayConfig` that has nothing but the gateway. -/
def gatewayOnly (gw : GatewayObject Selector) : Input Selector where
  gateway := some gw
  accounts := []
  upstreamUsername := []
  upstreamPassword := []
  upstreamCAPEM := []
  rateLimitStore := ⟨[], [], [], [], []⟩
  metricsToken := []

/-- The function `reconcileSecret` gives to `CreateOrUpdate`. -/
def mutateSecret (account : AccountObject) (gw : GatewayObject Selector) (username : Bytes)
    (endpoint : Endpoint) (existing : Option SecretObject) : Except Bytes SecretObject := do
  let rotationChanged := account.status.rotationObserved ≠ account.rotation
  let (password, hash) ← credentials calls rotationChanged existing
  let owners ← calls.setControllerReference account (existing.elim [] (·.ownerReferences))
  pure (AccountSecret account.toMailoutAccount username password hash endpoint gw.namespace_ owners)

/-- `reconcileSecret`. -/
def reconcileSecret (account : AccountObject) (gw : GatewayObject Selector) (username : Bytes) :
    Comp Bytes Stored Unit :=
  match GatewayConfig (gatewayOnly gw) [] with
  | .error err => Comp.fail (lit "render gateway endpoint: " ++ err)
  | .ok cfg => do
    let s ← Comp.get
    match calls.createOrUpdate.run (mutateSecret calls account gw username (GatewayEndpoint gw cfg))
        s.secret with
    | .error err => Comp.fail (lit "reconcile account secret: " ++ err)
    | .ok secret => Comp.modify fun s => { s with secret := some secret }

/-- `Status().Patch`, with the status the account is to have. -/
def patchStatus (status : AccountStatus) : Comp Bytes Stored Unit :=
  match calls.patchStatus with
  | some err => Comp.fail err
  | none => Comp.modify fun s => { s with account := s.account.map fun a => { a with status := status } }

/-- `markNotAccepted`. -/
def markNotAccepted (account : AccountObject) (reason message : Bytes) : Comp Bytes Stored Unit :=
  let set := setCondition calls.setStatusCondition
  patchStatus calls { account.status with
    observedGeneration := account.generation
    conditions := set (set account.status.conditions .accepted false reason message account.generation)
      .ready false reason message account.generation }

/-- `markReady`. -/
def markReady (account : AccountObject) (gw : GatewayObject Selector) (username : Bytes) :
    Comp Bytes Stored Unit :=
  let set := setCondition calls.setStatusCondition
  let accepted := set account.status.conditions .accepted true (lit "Accepted")
    (lit "Account accepted by " ++ gw.name) account.generation
  patchStatus calls
    { conditions :=
        if account.disabled then
          set accepted .ready false (lit "Disabled")
            (lit "Account is disabled; authentication is refused") account.generation
        else
          set accepted .ready true (lit "Ready")
            (lit "Credentials provisioned in Secret " ++ account.secretRefName) account.generation
      observedGeneration := account.generation
      username := username
      secretName := account.secretRefName
      gateway := gw.namespace_ ++ lit "/" ++ gw.name
      rotationObserved := account.rotation }

/-- `AccountReconciler.Reconcile`. -/
def Reconcile (c : Cluster Selector) : Comp Bytes Stored Unit := do
  let s ← Comp.get
  match calls.getAccount with
  | some err => Comp.fail err
  | none =>
    match s.account with
    | none => pure ()
    | some account =>
      match c.attach account.toMailoutAccount with
      | .error err => Comp.fail err
      | .ok (.notAccepted reason message) => markNotAccepted calls account reason message
      | .ok (.accepted gw) => do
        let username := UsernameFor account.toMailoutAccount
        reconcileSecret calls account gw username
        markReady calls account gw username

end

/-! ## What a reconciliation does -/

section
variable {bcrypt : Bcrypt} {calls : Calls bcrypt}

/-- Bytes are encoded to something. -/
theorem rawURLEncoding_ne_nil : ∀ {buf : Bytes}, buf ≠ [] → rawURLEncoding buf ≠ []
  | [], h => absurd rfl h
  | [_], _ | [_, _], _ | _ :: _ :: _ :: _, _ => List.cons_ne_nil _ _

/-- A password that was generated is not empty. -/
theorem GeneratePassword_ne_nil {password : Bytes} (h : GeneratePassword calls = .ok password) :
    password ≠ [] := by
  unfold GeneratePassword at h
  cases hrandom : calls.random with
  | error err => rw [hrandom] at h; cases h
  | ok buf =>
    rw [hrandom] at h
    cases h
    refine rawURLEncoding_ne_nil fun hnil => ?_
    have hlength := buf.2
    rw [hnil] at hlength
    exact absurd hlength (by decide)

/-- A hash that is returned is the one that bcrypt generated. -/
theorem HashPassword_ok {password hash : Bytes} (h : HashPassword calls password = .ok hash) :
    calls.generateFromPassword password = .ok hash := by
  unfold HashPassword at h
  cases hgenerate : calls.generateFromPassword password with
  | error err => rw [hgenerate] at h; cases h
  | ok found => rw [hgenerate] at h; exact h

/-- A hash of the cost the operator asks for is one that is served. -/
theorem usableHash_of_cost {hash : Bytes} (h : bcrypt.cost hash = some BcryptCost) :
    UsableHash bcrypt hash = true := by
  rw [UsableHash, h]
  decide

/-- Credentials that are kept by the next reconciliation, if no rotation asks for new ones. -/
structure SecretObject.Sound (bcrypt : Bcrypt) (secret : SecretObject) : Prop where
  password : secret.password ≠ []
  hash : secret.passwordHash ≠ []
  usable : UsableHash bcrypt secret.passwordHash = true

/-- What the Secret is to hold is the password it holds, or a new one. -/
theorem credentials_ok {rotationChanged : Bool} {existing : Option SecretObject}
    {password hash : Bytes} (h : credentials calls rotationChanged existing = .ok (password, hash)) :
    (∃ secret, existing = some secret ∧ secret.Sound bcrypt ∧ rotationChanged = false ∧
      password = secret.password ∧ hash = secret.passwordHash) ∨
    GeneratePassword calls = .ok password ∧ calls.generateFromPassword password = .ok hash := by
  unfold credentials at h
  dsimp only at h
  split_ifs at h with hnew
  · right
    cases hpassword : GeneratePassword calls with
    | error err => rw [hpassword] at h; cases h
    | ok generated =>
      rw [hpassword] at h
      cases hhash : HashPassword calls generated with
      | error err => simp only [hhash] at h; cases h
      | ok found =>
        simp only [hhash] at h
        cases h
        exact ⟨rfl, HashPassword_ok hhash⟩
  · left
    rw [not_or, not_or, not_or] at hnew
    obtain ⟨hpassword, hhash, hrotation, husable⟩ := hnew
    cases h
    cases existing with
    | none => exact absurd rfl hpassword
    | some secret =>
      exact ⟨secret, rfl, ⟨hpassword, hhash, not_not.mp husable⟩, Bool.eq_false_iff.mpr hrotation,
        rfl, rfl⟩

/-- Sound credentials are kept where no rotation is pending. -/
theorem credentials_of_sound {secret : SecretObject} (hsound : secret.Sound bcrypt) :
    credentials calls false (some secret) = .ok (secret.password, secret.passwordHash) := by
  unfold credentials
  rw [if_neg]
  · rfl
  · simp [hsound.password, hsound.hash, hsound.usable]

/-- Whatever the Secret is to hold is sound. -/
theorem credentials_sound {rotationChanged : Bool} {existing : Option SecretObject}
    {secret : SecretObject}
    (h : credentials calls rotationChanged existing = .ok (secret.password, secret.passwordHash)) :
    secret.Sound bcrypt := by
  rcases credentials_ok h with ⟨old, -, hsound, -, hpassword, hhash⟩ | ⟨hpassword, hhash⟩
  · exact ⟨hpassword ▸ hsound.password, hhash ▸ hsound.hash, hhash ▸ hsound.usable⟩
  · exact ⟨GeneratePassword_ne_nil hpassword, calls.generate_ne_nil hhash,
      usableHash_of_cost (calls.cost_generate hhash)⟩

/-- The Secret that is to be stored has the credentials it was to have. -/
theorem mutateSecret_ok {account : AccountObject} {gw : GatewayObject Selector} {username : Bytes}
    {endpoint : Endpoint} {existing : Option SecretObject} {secret : SecretObject}
    (h : mutateSecret calls account gw username endpoint existing = .ok secret) :
    credentials calls (account.status.rotationObserved ≠ account.rotation) existing =
      .ok (secret.password, secret.passwordHash) := by
  unfold mutateSecret at h
  dsimp only at h
  cases hcred : credentials calls (account.status.rotationObserved ≠ account.rotation) existing with
  | error err => rw [hcred] at h; cases h
  | ok cred =>
    rw [hcred] at h
    have h : (calls.setControllerReference account (existing.elim [] (·.ownerReferences)) >>= _) =
      Except.ok secret := h
    cases howners : calls.setControllerReference account (existing.elim [] (·.ownerReferences)) with
    | error err => rw [howners] at h; cases h
    | ok owners =>
      rw [howners] at h
      cases h
      rfl

/-- `reconcileSecret` fails and changes nothing, or leaves a Secret with the credentials it was to
have. -/
theorem reconcileSecret_cases (account : AccountObject) (gw : GatewayObject Selector)
    (username : Bytes) (s : Stored) :
    (∃ err, (reconcileSecret calls account gw username).run s = (.error err, s)) ∨
    ∃ secret : SecretObject,
      credentials calls (account.status.rotationObserved ≠ account.rotation) s.secret =
        .ok (secret.password, secret.passwordHash) ∧
      (reconcileSecret calls account gw username).run s = (.ok (), { s with secret := some secret }) := by
  rw [reconcileSecret]
  cases hconfig : GatewayConfig (gatewayOnly gw) [] with
  | error err => exact .inl ⟨_, rfl⟩
  | ok cfg =>
    dsimp only
    rw [Comp.run_bind_of_ok (Comp.run_get s)]
    cases hstored : calls.createOrUpdate.run
        (mutateSecret calls account gw username (GatewayEndpoint gw cfg)) s.secret with
    | error err => exact .inl ⟨_, rfl⟩
    | ok secret => exact .inr ⟨secret, mutateSecret_ok (calls.createOrUpdate.stores hstored), rfl⟩

/-- A status patch changes the status alone. -/
theorem patchStatus_ok {calls : Calls bcrypt} {status : AccountStatus} {s s' : Stored}
    (h : (patchStatus calls status).run s = (.ok (), s')) :
    s' = { s with account := s.account.map fun a => { a with status := status } } := by
  rw [patchStatus] at h
  cases hpatch : calls.patchStatus with
  | some err => rw [hpatch] at h; cases h
  | none =>
    rw [hpatch] at h
    exact (congrArg Prod.snd h).symm

/-- The account is accepted by its gateway. -/
def Cluster.accepts (c : Cluster Selector) (s : Stored) : Bool :=
  s.account.any fun account =>
    match c.attach account.toMailoutAccount with
    | .ok (.accepted _) => true
    | _ => false

/-- The status does not record the rotation the account asks for. -/
def Stored.pending (s : Stored) : Bool :=
  s.account.any fun a => a.status.rotationObserved ≠ a.rotation

/-- What one reconciliation does: it leaves the Secret as it is, or the account is accepted and it leaves
a Secret with the credentials it was to have, and then the status records the rotation unless it could
not be written. -/
inductive Reconciled (calls : Calls bcrypt) (c : Cluster Selector) (s s' : Stored) : Prop
  | kept (hsecret : s'.secret = s.secret) (hpending : s'.pending = s.pending)
  | provisioned (secret : SecretObject) (haccepts : c.accepts s = true)
      (hsecret : s'.secret = some secret)
      (hcred : credentials calls s.pending s.secret = .ok (secret.password, secret.passwordHash))
      (hpending : calls.patchStatus = none ∧ s'.pending = false ∨
        calls.patchStatus ≠ none ∧ s'.pending = s.pending)

/-- Every reconciliation, whatever its calls answer, ends in one of the ways that `Reconciled` lists. -/
theorem reconciled (calls : Calls bcrypt) (c : Cluster Selector) (s : Stored) :
    Reconciled calls c s ((Reconcile calls c).run s).2 := by
  rw [Reconcile, Comp.run_bind_of_ok (Comp.run_get s)]
  cases calls.getAccount with
  | some err => exact .kept rfl rfl
  | none =>
    obtain ⟨account, secret⟩ := s
    cases account with
    | none => exact .kept rfl rfl
    | some account =>
      dsimp only
      cases hattach : c.attach account.toMailoutAccount with
      | error err => exact .kept rfl rfl
      | ok attachment =>
        cases attachment with
        | notAccepted reason message =>
          dsimp only [markNotAccepted, patchStatus]
          cases calls.patchStatus with
          | some err => exact .kept rfl rfl
          | none => exact .kept rfl rfl
        | accepted gw =>
          have haccepts : c.accepts ⟨some account, secret⟩ = true := by
            simp [Cluster.accepts, hattach]
          dsimp only
          rcases reconcileSecret_cases account gw (UsernameFor account.toMailoutAccount)
            ⟨some account, secret⟩ with ⟨err, hrun⟩ | ⟨desired, hcred, hrun⟩
          · rw [Comp.run_bind_of_error hrun]
            exact .kept rfl rfl
          · rw [Comp.run_bind_of_ok hrun]
            dsimp only [markReady, patchStatus]
            cases hpatch : calls.patchStatus with
            | some err => exact .provisioned desired haccepts rfl hcred (.inr ⟨by simp [hpatch], rfl⟩)
            | none => exact .provisioned desired haccepts rfl hcred (.inl ⟨hpatch, by simp [Stored.pending]⟩)

end

/-! ## A shared gateway -/

/-- `CreateOrUpdate` without a failing call. -/
def CreateOrUpdate.direct {α : Type} : CreateOrUpdate α where
  run mutate old := mutate old
  stores h := h

/-- The condition that was set last comes first. -/
def SetStatusCondition.latestFirst : SetStatusCondition where
  set c conditions := c :: conditions.filter fun d => d.type ≠ c.type
  finds _ _ := List.find?_cons_of_pos (by simp)

/-- A gateway that knows one team. -/
def sharedGateway (namespaces : NamespacesFrom) : GatewayObject (Bytes × Bytes) where
  toMailoutGateway := { teamGateway with
    allowedAccounts := namespaces
    selector := some (lit "team", lit "acme") }
  hostname := lit "mail.example.com"
  listeners := ⟨none, none⟩
  tls := ⟨[lit "tls"], none, [], []⟩
  upstream := ⟨lit "smtp.example.com", 587, none, false, false, none⟩
  dkim := []
  milters := []
  rateLimit := none

/-- A cluster with that gateway, the namespace `shop` of the team, and no accounts or Secrets yet. -/
def sharedCluster (namespaces : NamespacesFrom) : Cluster (Bytes × Bytes) where
  labelSelectorAsSelector := fun kv => .ok fun set => set.contains kv
  getNamespace := fun ns => .ok (if ns = lit "shop" then some [(lit "team", lit "acme")] else none)
  operatorNamespace := lit "mailout-system"
  quote := id
  getGateway := fun _ _ => .ok (some (sharedGateway namespaces))
  listAccounts := .ok []
  getSecretObject := fun _ _ => .ok none

/-- An account of the gateway. -/
def accountIn (ns : Bytes) : MailoutAccount where
  name := lit "app"
  namespace_ := ns
  uid := lit "1"
  creationTimestamp := 0
  gatewayRefName := lit "gw"
  gatewayRefNamespace := []
  username := []
  secretRefName := lit "smtp"
  allowedSenders := []
  enforceHeaderFrom := none
  disabled := false

end Mailout
