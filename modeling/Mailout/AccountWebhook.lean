import Mailout.AccountController
import Mailout.Validation

/-!
# Admission of accounts

`internal/webhook/v1alpha1/mailoutaccount_webhook.go`. The webhook answers with its own code what the
account controller decides again: whether the gateway exists and takes the account's namespace, and
whether the username is free. `admitted_accepted_iff` says for which accounts that are admitted the
controller agrees. The webhook's check of the username is the stricter one (`admitted_free`); of the
three ways a gateway chooses its namespaces it checks one, and a selector is never evaluated
(`selector_admits_stranger`).
-/

namespace Mailout

open Go

variable {Selector : Type}

/-- `client.ObjectKey`, as it is printed. -/
def objectKey (ns name : Bytes) : Bytes := ns ++ lit "/" ++ name

/-- Another account of the gateway has the username. -/
def Cluster.taken (c : Cluster Selector) (account : MailoutAccount) (gw : GatewayObject Selector)
    (other : MailoutAccount) : Bool :=
  ¬ (other.namespace_ = account.namespace_ ∧ other.name = account.name) &&
    c.reconciler.refersTo gw.toMailoutGateway other && UsernameFor other = UsernameFor account

/-- `validateAgainstGateway`. -/
def validateAgainstGateway (c : Cluster Selector) (account : MailoutAccount)
    (gw : GatewayObject Selector) (spec : FieldPath) : List (FieldError Selector) :=
  (if gw.allowedAccounts = .same ∧ account.namespace_ ≠ gw.namespace_ then
    [.forbidden (spec.child (lit "gatewayRef")) (lit "MailoutGateway " ++ gw.namespace_ ++ lit "/" ++
      gw.name ++ lit " only accepts accounts from its own namespace")]
  else []) ++
  match c.listAccounts with
  -- the conflict is left to the controller
  | .error _ => []
  | .ok accounts =>
    if accounts.any (c.taken account gw) then
      [.duplicate (spec.child (lit "username"))
        (.text (UsernameFor account ++ lit " is already taken on this gateway"))]
    else []

/-- `validateAgainstGrant`. -/
def validateAgainstGrant (c : Cluster Selector) (account : MailoutAccount) (path : FieldPath) :
    List (FieldError Selector) :=
  if account.allowedSenders.length = 0 then []
  else
    match c.getGateway (GatewayNamespaceFor account c.operatorNamespace) account.gatewayRefName with
    | .error _ | .ok none => []
    | .ok (some gw) =>
      match grantedSenders c.toClient gw.toMailoutGateway account.namespace_ with
      | .error err => [.internalError path err]
      | .ok granted =>
        (GrantedSubset granted account.allowedSenders).2.map fun entry =>
          .invalid path (.text entry)
            (if granted.length = 0 then
              lit "MailoutGateway " ++ gw.namespace_ ++ lit "/" ++ gw.name ++
                lit " grants this namespace no sender at all; " ++
                lit "its owner has to add one to spec.allowedSenders"
            else
              lit "not granted to namespace " ++ account.namespace_ ++ lit " by MailoutGateway " ++
                gw.namespace_ ++ lit "/" ++ gw.name)

/-- `validateSecretRef`. -/
def validateSecretRef (c : Cluster Selector) (account : MailoutAccount) (path : FieldPath) :
    List (FieldError Selector) :=
  match c.getSecretObject account.namespace_ account.secretRefName with
  | .error _ | .ok none => []
  | .ok (some secret) =>
    if secret.ownerReferences.any fun owner =>
        owner.kind = lit "MailoutAccount" ∧ owner.name = account.name then []
    else if secret.labels.lookup (lit "app.kubernetes.io/managed-by") =
        some (lit "mailout-operator") then []
    else [.invalid (path.child (lit "name")) (.text account.secretRefName)
      (lit "a Secret with this name already exists and is not managed by mailout; " ++
        lit "the operator would overwrite it, so pick another name")]

/-- What `validate` reports of an explicit username outside the account's own namespace. -/
def usernameSpaceErrors (quote : Bytes → Bytes) (account : MailoutAccount) (spec : FieldPath) :
    List (FieldError Selector) :=
  let ownSpace := account.namespace_ ++ lit "."
  if account.username ≠ [] ∧ ¬ ownSpace.isPrefixOf account.username then
    [.invalid (spec.child (lit "username")) (.text account.username)
      (lit "must start with " ++ quote ownSpace ++
        lit ", so that a username cannot name an identity outside its own namespace")]
  else []

/-- What `validate` reports of a username the dataplane would not serve. -/
def usernameErrors (quote : Bytes → Bytes) (account : MailoutAccount) (spec : FieldPath) :
    List (FieldError Selector) :=
  let username := UsernameFor account
  if ValidUsername username then []
  else
    let detail := lit "must be at most " ++ formatNat maxUsernameLength ++
      lit " printable ASCII characters, " ++
      lit "without space, colon, semicolon, comma, quote or backslash"
    if account.username = [] then
      [.invalid (FieldPath.child (lit "metadata") (lit "name")) (.text username)
        (lit "the default username " ++ quote username ++ lit " is not usable: " ++ detail ++
          lit ". Set spec.username explicitly.")]
    else [.invalid (spec.child (lit "username")) (.text username) detail]

/-- `AccountValidator.validate`. -/
def AccountValidator.validate (c : Cluster Selector) (account : MailoutAccount) :
    Admission Selector :=
  let spec : FieldPath := lit "spec"
  let warnings :=
    if account.enforceHeaderFrom = some false then
      [lit "spec.enforceHeaderFrom is false: this account may put any " ++
        lit "address in the From header its recipients will see"]
    else []
  let gatewayNamespace := GatewayNamespaceFor account c.operatorNamespace
  let gatewayKey := objectKey gatewayNamespace account.gatewayRefName
  match c.getGateway gatewayNamespace account.gatewayRefName with
  | .error err => ([], .error (.lookup (lit "look up gateway " ++ gatewayKey ++ lit ": " ++ err)))
  | .ok found =>
    let errs : List (FieldError Selector) :=
      (match found with
        | none => [.invalid (spec.child (lit "gatewayRef")) (.text gatewayKey)
            (lit "no such MailoutGateway; an account cannot be provisioned without one")]
        | some gw => validateAgainstGateway c account gw spec) ++
      usernameSpaceErrors c.quote account spec ++
      usernameErrors c.quote account spec ++
      validateAllowedSenders account.allowedSenders (spec.child (lit "allowedSenders")) ++
      validateAgainstGrant c account (spec.child (lit "allowedSenders")) ++
      validateSecretRef c account (spec.child (lit "secretRef"))
    (warnings, if errs.length > 0 then .error (.invalid errs) else .ok ())

/-- The webhook lets the account through. -/
def AccountValidator.Admits (c : Cluster Selector) (account : MailoutAccount) : Prop :=
  (AccountValidator.validate c account).2 = .ok ()

instance AccountValidator.decidableAdmits [DecidableEq Selector] (c : Cluster Selector)
    (account : MailoutAccount) :
    Decidable (AccountValidator.Admits c account) :=
  inferInstanceAs (Decidable (_ = _))

/-! ## What admission says about the account -/

section
variable {c : Cluster Selector} {account : MailoutAccount}

/-- An account that is admitted has a gateway, and none of the checks reports anything. -/
theorem AccountValidator.Admits.checks (h : AccountValidator.Admits c account) :
    ∃ gw, c.getGateway (GatewayNamespaceFor account c.operatorNamespace) account.gatewayRefName =
        .ok (some gw) ∧
      validateAgainstGateway c account gw (lit "spec") = [] ∧
      (usernameSpaceErrors c.quote account (lit "spec") : List (FieldError Selector)) = [] ∧
      (usernameErrors c.quote account (lit "spec") : List (FieldError Selector)) = [] := by
  unfold AccountValidator.Admits AccountValidator.validate at h
  dsimp only at h
  cases hgw : c.getGateway (GatewayNamespaceFor account c.operatorNamespace)
      account.gatewayRefName with
  | error err => simp only [hgw] at h; cases h
  | ok found =>
    simp only [hgw] at h
    split_ifs at h with herrs
    rw [Nat.not_lt, Nat.le_zero, List.length_eq_zero_iff] at herrs
    simp only [List.append_eq_nil_iff] at herrs
    obtain ⟨⟨⟨⟨⟨hgateway, hspace⟩, husername⟩, -⟩, -⟩, -⟩ := herrs
    cases found with
    | none => cases hgateway
    | some gw => exact ⟨gw, rfl, hgateway, hspace, husername⟩

/-- What `validateAgainstGateway` checks. -/
theorem validateAgainstGateway_eq_nil {gw : GatewayObject Selector} {spec : FieldPath}
    {accounts : List MailoutAccount} (hlist : c.listAccounts = .ok accounts) :
    validateAgainstGateway c account gw spec = [] ↔
      (gw.allowedAccounts = .same → account.namespace_ = gw.namespace_) ∧
      ∀ other ∈ accounts, c.taken account gw other = false := by
  rw [validateAgainstGateway, hlist, List.append_eq_nil_iff]
  refine and_congr ?_ ?_
  · split_ifs with h
    · simp [h]
    · simpa using h
  · dsimp only
    split_ifs with h
    · simp only [List.any_eq_true] at h
      obtain ⟨other, hmem, htaken⟩ := h
      simp only [false_iff, not_forall]
      exact ⟨other, hmem, by simp [htaken]⟩
    · simpa using h

/-- A username that no other account of the gateway has is in no conflict, whoever is older. -/
theorem admitted_free {gw : GatewayObject Selector} {accounts : List MailoutAccount}
    (h : ∀ other ∈ accounts, c.taken account gw other = false) :
    c.reconciler.usernameConflict account gw.toMailoutGateway (UsernameFor account) accounts = [] := by
  refine Reconciler.usernameConflict_eq_nil.mpr fun other hmem hholds => ?_
  have hfree := h other hmem
  rw [Cluster.taken] at hfree
  simp [hholds.key, hholds.refers, hholds.name] at hfree

end

/-! ## Agreement with the controller -/

/-- All reads succeed. -/
structure Cluster.Readable (c : Cluster Selector) : Prop where
  gateways : ∀ ns name, ∃ found, c.getGateway ns name = .ok found
  accounts : ∃ list, c.listAccounts = .ok list
  secrets : ∀ ns name, ∃ found, c.getSecretObject ns name = .ok found
  namespaces : ∀ ns, ∃ set, c.getNamespace ns = .ok set

/-- What is left of `namespaceAllowed` after the webhook: nothing for a gateway that takes all
namespaces or its own, and for one with a selector that it matches the namespace. -/
def GatewayObject.Selects (c : Cluster Selector) (gw : GatewayObject Selector) (ns : Bytes) : Prop :=
  match gw.allowedAccounts with
  | .unset | .all | .same => True
  | .selector => ∃ sel selector set, gw.selector = some sel ∧
      c.labelSelectorAsSelector sel = .ok selector ∧ c.getNamespace ns = .ok set ∧
      selector (set.getD []) = true
  | .unknown _ => False

/-- A namespace is allowed exactly if the gateway selects it. -/
theorem namespaceAllowed_iff {c : Cluster Selector} {gw : GatewayObject Selector} {ns : Bytes}
    (hsame : gw.allowedAccounts = .same → ns = gw.namespace_) :
    namespaceAllowed c.toClient gw.toMailoutGateway ns = .ok true ↔ gw.Selects c ns := by
  unfold namespaceAllowed GatewayObject.Selects
  cases hmode : gw.allowedAccounts with
  | unset => simp
  | all => simp
  | same => simp [hsame hmode]
  | unknown value => simp
  | selector =>
    cases hsel : gw.selector with
    | none => simp
    | some sel =>
      cases hcompile : c.labelSelectorAsSelector sel with
      | error err => simp [hcompile]
      | ok selector =>
        cases hns : c.getNamespace ns with
        | error err => simp [hcompile]
        | ok set => simp [hcompile]

/-- A namespace the gateway does not take ends in `markNotAccepted`. -/
theorem attach_not_allowed {c : Cluster Selector} {account : MailoutAccount}
    {gw : GatewayObject Selector}
    (hgw : c.getGateway (GatewayNamespaceFor account c.operatorNamespace) account.gatewayRefName =
      .ok (some gw))
    (hnot : namespaceAllowed c.toClient gw.toMailoutGateway account.namespace_ = .ok false) :
    ∃ message, c.attach account = .ok (.notAccepted (lit "NamespaceNotAllowed") message) := by
  simp [Cluster.attach, hgw, hnot]

/-- **Admission and reconciliation agree**, on an account that is admitted while all reads succeed: the
controller does not end in `markNotAccepted`, since the gateway exists, takes the namespace and has
no other claim to the username, if and only if the gateway does not choose its namespaces by a
selector, or by one that matches. -/
theorem admitted_accepted_iff (c : Cluster Selector) (hreads : c.Readable) (account : MailoutAccount)
    (hadmits : AccountValidator.Admits c account) :
    ((∀ reason message, c.attach account ≠ .ok (.notAccepted reason message)) ∧
      ∃ gw accounts,
        c.getGateway (GatewayNamespaceFor account c.operatorNamespace) account.gatewayRefName =
          .ok (some gw) ∧
        namespaceAllowed c.toClient gw.toMailoutGateway account.namespace_ = .ok true ∧
        c.listAccounts = .ok accounts ∧
        c.reconciler.usernameConflict account gw.toMailoutGateway (UsernameFor account) accounts = [] ∧
        c.attach account = .ok (.accepted gw)) ↔
    ∀ gw, c.getGateway (GatewayNamespaceFor account c.operatorNamespace) account.gatewayRefName =
      .ok (some gw) → gw.Selects c account.namespace_ := by
  obtain ⟨gw, hgw, hgateway, -, -⟩ := hadmits.checks
  obtain ⟨accounts, hlist⟩ := hreads.accounts
  obtain ⟨hsame, hfree⟩ := (validateAgainstGateway_eq_nil hlist).mp hgateway
  have hconflict := admitted_free hfree
  constructor
  · rintro ⟨-, gw', -, hgw', hallowed, -⟩ gw'' hgw''
    rw [hgw] at hgw' hgw''
    cases hgw'
    cases hgw''
    exact (namespaceAllowed_iff hsame).mp hallowed
  · intro hselects
    have hallowed := (namespaceAllowed_iff hsame).mpr (hselects gw hgw)
    have hattach : c.attach account = .ok (.accepted gw) := by
      simp [Cluster.attach, hgw, hallowed, hlist, hconflict]
    refine ⟨fun reason message h => ?_, gw, accounts, hgw, hallowed, hlist, hconflict, hattach⟩
    rw [hattach] at h
    cases h

/-- Every read of that cluster is answered. -/
theorem sharedCluster_readable (namespaces : NamespacesFrom) : (sharedCluster namespaces).Readable where
  gateways := fun _ _ => ⟨_, rfl⟩
  accounts := ⟨_, rfl⟩
  secrets := fun _ _ => ⟨_, rfl⟩
  namespaces := fun _ => ⟨_, rfl⟩

/-- An account in a namespace that the gateway selects. -/
theorem admitted_accepted_selected :
    AccountValidator.Admits (sharedCluster .selector) (accountIn (lit "shop")) ∧
      ∀ reason message, (sharedCluster .selector).attach (accountIn (lit "shop")) ≠
        .ok (.notAccepted reason message) := by
  have hadmits : AccountValidator.Admits (sharedCluster .selector) (accountIn (lit "shop")) := by
    decide +kernel
  refine ⟨hadmits, ((admitted_accepted_iff _ (sharedCluster_readable _) _ hadmits).mpr ?_).1⟩
  rintro gw hgw
  cases hgw
  exact ⟨_, _, _, rfl, rfl, rfl, by decide +kernel⟩

/-- A gateway selects the namespaces of one team. The webhook lets an account of another namespace
through, and the controller does not accept it. -/
theorem selector_admits_stranger :
    (sharedCluster .selector).Readable ∧
    AccountValidator.Admits (sharedCluster .selector) (accountIn (lit "blog")) ∧
    ∃ message, (sharedCluster .selector).attach (accountIn (lit "blog")) =
      .ok (.notAccepted (lit "NamespaceNotAllowed") message) := by
  have hnot : namespaceAllowed (sharedCluster .selector).toClient
      (sharedGateway .selector).toMailoutGateway (lit "blog") = .ok false := by decide +kernel
  exact ⟨sharedCluster_readable _, by decide +kernel, attach_not_allowed rfl hnot⟩

end Mailout
