import Mailout.GatewayController
import Mailout.Go.Informer
import Mailout.Go.Observe
import Mathlib.Data.Finset.Option
import Mathlib.Data.List.ReduceOption

/-!
# The gateway controller and its cache

`GatewayReconcile` is called for a gateway when something is put into the work queue of the controller:
`SetupWithManager` has the objects watched, and `gatewayForAccount` and `gatewayForAccountSecret` say which
gateway a change is for. What it reads comes from a cache that the watches feed, object by object, and the
objects change while it reads. Of the Secrets the cache has only those with the operator's own label, and of
their data only the password and the hash (`cachedSecret`). The model follows one gateway: its key is in the
queue or not, it is being worked on or not, and it may be scheduled for the resync.

`operator_settles` says that this is enough for the configuration Secret: when nothing is under way and the
gateway is neither queued nor worked on, the Secret is what the last reconciliation, with its calls ending as
they did, leaves of the present objects. It rests on the labels by which the account controller marks its
Secrets (`labelled_accountSecret`).

Not in the model: the namespaces and their labels stay as they are (`world`), and what is read past the cache
is what the calls of a reconciliation answer (`GatewayCalls`), the configuration Secret apart.
-/

namespace Mailout

open Go

variable {Selector : Type}

/-! ## Keys and labels -/

/-- `client.ObjectKey`, which a `reconcile.Request` consists of. -/
structure ObjectKey where
  namespace_ : Bytes
  name : Bytes
  deriving DecidableEq, Repr

def MailoutAccount.key (account : MailoutAccount) : ObjectKey := ⟨account.namespace_, account.name⟩

/-- The Secret an account names. -/
def MailoutAccount.secretKey (account : MailoutAccount) : ObjectKey :=
  ⟨account.namespace_, account.secretRefName⟩

def GatewayResource.key (gw : GatewayResource Selector) : ObjectKey := ⟨gw.namespace_, gw.name⟩

/-- The value of a label, empty if it is not there. -/
def Labels.get (labels : Labels) (key : Bytes) : Bytes := (labels.lookup key).getD []

/-- `gatewayForAccount`. -/
def gatewayForAccount (operatorNamespace : Bytes) (account : MailoutAccount) : ObjectKey :=
  ⟨GatewayNamespaceFor account operatorNamespace, account.gatewayRefName⟩

/-- `gatewayForAccountSecret`, on the labels of the Secret. -/
def gatewayForAccountSecret (operatorNamespace : Bytes) (labels : Labels) : Option ObjectKey :=
  let name := labels.get (lit "mailout.daly.nc/gateway")
  if name = [] then none
  else
    let ns := labels.get (lit "mailout.daly.nc/gateway-namespace")
    some ⟨if ns = [] then operatorNamespace else ns, name⟩

/-- The controller collects an account for the gateway whose queue its changes go to. -/
theorem refersTo_iff {r : Reconciler Selector} {gw : GatewayResource Selector} {account : MailoutAccount} :
    r.refersTo gw.toMailoutGateway account = true ↔
      gatewayForAccount r.operatorNamespace account = gw.key := by
  simp [Reconciler.refersTo, gatewayForAccount, GatewayResource.key]

/-! ### The cache of Secrets -/

/-- The selector of the cache: the label the operator has on whatever it writes. -/
def managed (labels : Labels) : Bool :=
  labels.get (lit "app.kubernetes.io/managed-by") = lit "mailout-operator"

/-- `keepOnlyCredentialKeys`: of the data of a Secret only the password and its hash are kept. -/
def keepOnlyCredentialKeys (secret : SecretObject) : SecretObject :=
  { secret with username := [], host := [], port := [], tls := [] }

/-- What the cache has of a Secret. One without the label is to the controller as if it did not exist. -/
def cachedSecret (secret : Option SecretObject) : Option SecretObject :=
  (secret.filter fun secret => managed secret.labels).map keepOnlyCredentialKeys

/-- A Secret that the account controller wrote gets into the cache, and is marked with the gateway that the
account refers to. -/
theorem labelled_accountSecret {operatorNamespace username password passwordHash : Bytes}
    {account : MailoutAccount} {endpoint : Endpoint} {owners : List OwnerReference}
    (hname : account.gatewayRefName ≠ []) :
    managed (AccountSecret account username password passwordHash endpoint
        (GatewayNamespaceFor account operatorNamespace) owners).labels = true ∧
      gatewayForAccountSecret operatorNamespace
        (AccountSecret account username password passwordHash endpoint
          (GatewayNamespaceFor account operatorNamespace) owners).labels =
        some (gatewayForAccount operatorNamespace account) := by
  have hmanaged : Labels.get (accountSecretLabels account (GatewayNamespaceFor account operatorNamespace))
      (lit "app.kubernetes.io/managed-by") = lit "mailout-operator" := rfl
  have hgateway : Labels.get (accountSecretLabels account (GatewayNamespaceFor account operatorNamespace))
      (lit "mailout.daly.nc/gateway") = account.gatewayRefName := rfl
  have hnamespace : Labels.get
      (accountSecretLabels account (GatewayNamespaceFor account operatorNamespace))
      (lit "mailout.daly.nc/gateway-namespace") = GatewayNamespaceFor account operatorNamespace := rfl
  refine ⟨by simp only [managed, AccountSecret, hmanaged, decide_true], ?_⟩
  simp only [gatewayForAccountSecret, AccountSecret, hgateway, hnamespace, if_neg hname,
    gatewayForAccount, Option.some.injEq, ObjectKey.mk.injEq, and_true]
  split_ifs with hnil
  · rw [GatewayNamespaceFor] at hnil ⊢
    split_ifs at hnil ⊢ with hns
    · exact absurd hnil hns
    · rfl
  · rfl

/-! ## The objects and their changes -/

/-- What the gateway at a key is reconciled from, and its configuration Secret. -/
structure Objects (Selector : Type) (g : ObjectKey) where
  gateway : Option { gw : GatewayResource Selector // gw.key = g }
  accounts : Finset MailoutAccount
  secrets : ObjectKey → Option SecretObject
  config : Option ConfigSecretObject

/-- An object is created, updated or deleted. -/
inductive ObjectChange (Selector : Type) (g : ObjectKey) where
  | gateway (new : Option { gw : GatewayResource Selector // gw.key = g })
  | account (key : ObjectKey) (new : Option { account : MailoutAccount // account.key = key })
  | secret (key : ObjectKey) (new : Option SecretObject)
  | config (new : Option ConfigSecretObject)

variable {g : ObjectKey}

/-- The accounts after the one at a key was changed. -/
def replaceAccount (accounts : Finset MailoutAccount) (key : ObjectKey)
    (new : Option { account : MailoutAccount // account.key = key }) : Finset MailoutAccount :=
  accounts.filter (fun account => account.key ≠ key) ∪ (new.map Subtype.val).toFinset

namespace Objects

/-- The objects after a change. -/
def apply (o : Objects Selector g) : ObjectChange Selector g → Objects Selector g
  | .gateway new => { o with gateway := new }
  | .account key new => { o with accounts := replaceAccount o.accounts key new }
  | .secret key new => { o with secrets := Function.update o.secrets key new }
  | .config new => { o with config := new }

/-- The Secrets as the cache has them. The informer of the model holds them whole; its selector and its
transform stand between it and whoever reads. -/
def cached (o : Objects Selector g) (key : ObjectKey) : Option SecretObject := cachedSecret (o.secrets key)

end Objects

/-- Another account is there as before, and the one at the key is the new one. -/
theorem mem_replaceAccount {accounts : Finset MailoutAccount} {key : ObjectKey}
    {new : Option { account : MailoutAccount // account.key = key }} {account : MailoutAccount} :
    account ∈ replaceAccount accounts key new ↔
      account ∈ accounts ∧ account.key ≠ key ∨ new.map Subtype.val = some account := by
  simp [replaceAccount, Option.mem_def]

/-- The two changes are of one object. -/
def ObjectChange.same : ObjectChange Selector g → ObjectChange Selector g → Bool
  | .gateway _, .gateway _ => true
  | .account key _, .account key' _ => key = key'
  | .secret key _, .secret key' _ => key = key'
  | .config _, .config _ => true
  | _, _ => false

/-- The changes of two accounts may come in either order. -/
theorem replaceAccount_comm {accounts : Finset MailoutAccount} {key key' : ObjectKey}
    {new : Option { account : MailoutAccount // account.key = key }}
    {new' : Option { account : MailoutAccount // account.key = key' }} (h : key ≠ key') :
    replaceAccount (replaceAccount accounts key new) key' new' =
      replaceAccount (replaceAccount accounts key' new') key new := by
  have hkey : ∀ account, new.map Subtype.val = some account → account.key ≠ key' := by
    intro account hnew
    obtain ⟨a, -, rfl⟩ := Option.map_eq_some_iff.mp hnew
    exact fun heq => h (a.2.symm.trans heq)
  have hkey' : ∀ account, new'.map Subtype.val = some account → account.key ≠ key := by
    intro account hnew
    obtain ⟨a, -, rfl⟩ := Option.map_eq_some_iff.mp hnew
    exact fun heq => h (heq.symm.trans a.2)
  ext account
  simp only [mem_replaceAccount]
  have := hkey account
  have := hkey' account
  tauto

/-- Of two changes of one account the second counts. -/
theorem replaceAccount_cover {accounts : Finset MailoutAccount} {key : ObjectKey}
    {new new' : Option { account : MailoutAccount // account.key = key }} :
    replaceAccount (replaceAccount accounts key new) key new' = replaceAccount accounts key new' := by
  have hkey : ∀ account, new.map Subtype.val = some account → account.key = key := by
    intro account hnew
    obtain ⟨a, -, rfl⟩ := Option.map_eq_some_iff.mp hnew
    exact a.2
  ext account
  simp only [mem_replaceAccount]
  have := hkey account
  tauto

/-- The watches of the controller. -/
def objectFeed (Selector : Type) (g : ObjectKey) : Feed (Objects Selector g) (ObjectChange Selector g) where
  apply := Objects.apply
  same := ObjectChange.same
  comm := by
    intro o e e' h
    cases e <;> cases e' <;> simp_all [Objects.apply, ObjectChange.same]
    case account.account => exact replaceAccount_comm h
    case secret.secret => exact Function.update_comm h _ _ _
  cover := by
    intro o e e' h
    cases e <;> cases e' <;> simp_all [Objects.apply, ObjectChange.same]
    case account.account key _ _ _ => subst h; exact replaceAccount_cover

/-! ## The controller -/

/-- Where the controller is with the gateway: not at it, before the list of the accounts, or at their
Secrets, with what it has read so far. -/
inductive Operator.Activity (Selector : Type) (g : ObjectKey) where
  | idle
  | started (gw : { gw : GatewayResource Selector // gw.key = g })
  | collecting (gw : { gw : GatewayResource Selector // gw.key = g }) (accounts : List MailoutAccount)
      (todo : List ObjectKey) (seen : List (ObjectKey × Option SecretObject))

/-- The objects with their cache, and what the controller has to do with the gateway. -/
structure Operator (Selector : Type) (g : ObjectKey) where
  objects : Informer (Objects Selector g) (ObjectChange Selector g)
  /-- the gateway is in the work queue -/
  queued : Bool
  /-- `RequeueAfter` puts it there in time -/
  scheduled : Bool
  activity : Operator.Activity Selector g

namespace Operator

inductive Label (Selector : Type) (g : ObjectKey) where
  /-- Somebody else changes an object. -/
  | write (e : ObjectChange Selector g)
  | deliver (n : Nat)
  | skip (n : Nat)
  | resync
  /-- `Reconcile` is called, and reads the gateway. -/
  | take
  /-- The accounts are listed, in some order. -/
  | list (accounts : List MailoutAccount)
  | read
  /-- A read fails. -/
  | fail
  /-- Everything else, with the ends of the calls. -/
  | finish (calls : GatewayCalls)

/-- What was read of the Secrets. -/
def asSecrets (seen : List (ObjectKey × Option SecretObject)) : ObjectKey → Option SecretObject :=
  fun key => (seen.lookup key).getD none

/-- The cluster with these accounts and Secrets. -/
def reading (world : Cluster Selector) (accounts : List MailoutAccount)
    (secrets : ObjectKey → Option SecretObject) : Cluster Selector :=
  { world with
    listAccounts := .ok accounts
    getSecretObject := fun ns name => .ok (secrets ⟨ns, name⟩) }

section
variable (world : Cluster Selector)

/-- The account is one of the gateway's. -/
def refers (g : ObjectKey) (account : MailoutAccount) : Bool :=
  gatewayForAccount world.operatorNamespace account = g

/-- The Secret is marked as one of the gateway's. -/
def labelled (g : ObjectKey) (secret : SecretObject) : Bool :=
  gatewayForAccountSecret world.operatorNamespace secret.labels = some g

/-- The handlers of `SetupWithManager`: whether a change puts the gateway into the queue. They are given
the object as it was in the cache, and as it gets there; of a Secret that is on neither side they are not
told. The configuration Secret has the gateway as its owner, which nobody is taken to remove. -/
def enqueues (cache : Objects Selector g) : ObjectChange Selector g → Bool
  | .gateway _ => true
  | .account key new =>
    (∃ account ∈ cache.accounts, account.key = key ∧ refers world g account = true) ∨
      ∃ account ∈ new, refers world g account.1 = true
  | .secret key new =>
    (∃ secret ∈ cache.cached key, labelled world g secret = true) ∨
      ∃ secret ∈ cachedSecret new, labelled world g secret = true
  | .config new =>
    (∃ secret ∈ cache.config, managed secret.labels = true) ∨
      ∃ secret ∈ new, managed secret.labels = true

/-- The status patch of a reconciliation, which leaves alone a status that would not change. -/
def patched (objects : Informer (Objects Selector g) (ObjectChange Selector g))
    (status : Option GatewayStatus) : Informer (Objects Selector g) (ObjectChange Selector g) :=
  match objects.source.gateway, status with
  | some gw, some status =>
    if gw.1.status = status then objects
    else objects.write (objectFeed Selector g) (.gateway (some ⟨{ gw.1 with status := status }, gw.2⟩))
  | _, _ => objects

/-- The configuration Secret is written. The cache has nothing of its data, so that `CreateOrUpdate` finds a
difference each time; a write that changes nothing is none to the API server, which tells nobody of it. -/
def stored (objects : Informer (Objects Selector g) (ObjectChange Selector g))
    (config : Option ConfigSecretObject) : Informer (Objects Selector g) (ObjectChange Selector g) :=
  if objects.source.config = config then objects
  else objects.write (objectFeed Selector g) (.config config)

/-- One step of the objects, of their way into the cache, or of the controller. -/
def step (o : Operator Selector g) : Label Selector g → Option (Operator Selector g)
  | .write e => some { o with objects := o.objects.write (objectFeed Selector g) e }
  | .deliver n =>
    (o.objects.deliver (objectFeed Selector g) n).map fun p =>
      { o with objects := p.2, queued := o.queued || enqueues world o.objects.cache p.1 }
  | .skip n => (o.objects.skip (objectFeed Selector g) n).map fun objects => { o with objects := objects }
  | .resync => if o.scheduled then some { o with queued := true, scheduled := false } else none
  | .take =>
    match o.activity, o.queued with
    | .idle, true =>
      some { o with
        queued := false
        activity := match o.objects.cache.gateway with
          | none => .idle
          | some gw => .started gw }
    | _, _ => none
  | .list accounts =>
    match o.activity with
    | .started gw =>
      if accounts.Nodup ∧ accounts.toFinset = o.objects.cache.accounts then
        let todo := (accounts.filter (refers world g)).map MailoutAccount.secretKey
        some { o with activity := .collecting gw accounts todo [] }
      else none
    | _ => none
  | .read =>
    match o.activity with
    | .collecting gw accounts (key :: todo) seen =>
      some { o with activity := .collecting gw accounts todo ((key, o.objects.cache.cached key) :: seen) }
    | _ => none
  | .fail =>
    match o.activity with
    | .idle => none
    | _ => some { o with queued := true, activity := .idle }
  | .finish calls =>
    match o.activity with
    | .collecting gw accounts [] seen =>
      let run := (GatewayReconcile calls (reading world accounts (asSecrets seen))).run
        ⟨some gw.1, o.objects.source.config⟩
      some {
        objects := patched (stored o.objects run.2.configSecret)
          (run.2.gateway.map GatewayResource.status)
        -- an error puts it back, and what is marked as failed is not scheduled
        queued := o.queued || !run.1.isOk
        scheduled := o.scheduled || run.1 = .ok .reconciled
        activity := .idle }
    | _ => none

end

/-- The controller when it starts, with its cache filled: every gateway is queued. -/
def start (objects : Objects Selector g) : Operator Selector g where
  objects := .synced objects
  queued := true
  scheduled := false
  activity := .idle

/-- What a step has to do with a reconciliation: if it is the end of one, how its calls end, and the
configuration Secret it finds. -/
def round (o : Operator Selector g) : Label Selector g → Option (GatewayCalls × Option ConfigSecretObject)
  | .finish calls => some (calls, o.objects.source.config)
  | _ => none

/-- The reconciliations of a run that went as far as to read all there is to read. -/
def rounds (world : Cluster Selector) (o : Operator Selector g) (ls : List (Label Selector g)) :
    List (GatewayCalls × Option ConfigSecretObject) :=
  (log (step world) round o ls).reduceOption

/-- Every reconciliation of a run ended at one of its steps. -/
theorem finish_of_mem_rounds {world : Cluster Selector} {calls : GatewayCalls}
    {prev : Option ConfigSecretObject} :
    ∀ {ls : List (Label Selector g)} {o : Operator Selector g}, (calls, prev) ∈ rounds world o ls →
      Label.finish calls ∈ ls := by
  intro ls
  induction ls with
  | nil => intro o h; cases h
  | cons l ls ih =>
    intro o h
    rw [rounds, List.reduceOption_mem_iff, log, List.mem_cons] at h
    rcases h with h | h
    · cases l with
      | finish calls' =>
        obtain rfl : calls = calls' := congrArg Prod.fst (Option.some.inj h)
        exact List.mem_cons_self
      | _ => cases h
    · cases hstep : step world o l with
      | none => rw [hstep] at h; cases h
      | some t =>
        rw [hstep] at h
        exact List.mem_cons_of_mem _ (ih (List.reduceOption_mem_iff.mpr h))

/-! ## What a reconciliation depends on -/

section
variable {world : Cluster Selector} {accounts accounts' : List MailoutAccount}
  {secrets secrets' : ObjectKey → Option SecretObject} {gw : GatewayResource Selector}

/-- The accounts of other gateways do not count. -/
theorem collectAccounts_filter {r : Reconciler Selector} {gw : MailoutGateway Selector} :
    ∀ list : List MailoutAccount,
      r.collectAccounts gw (list.filter (r.refersTo gw)) = r.collectAccounts gw list
  | [] => rfl
  | account :: list => by
    have ih : r.collectAccounts gw (list.filter (r.refersTo gw)) = r.collectAccounts gw list :=
      collectAccounts_filter list
    cases hrefers : r.refersTo gw account with
    | true => rw [List.filter_cons_of_pos hrefers, Reconciler.collectAccounts, Reconciler.collectAccounts, ih]
    | false =>
      have hnone : r.collectAccount gw account = .ok none := by
        simp [Reconciler.collectAccount, hrefers]
      rw [List.filter_cons_of_neg (by simp [hrefers]), Reconciler.collectAccounts, hnone, ih]

/-- What is collected is decided account by account. -/
theorem collectAccounts_congr {r r' : Reconciler Selector} {gw : MailoutGateway Selector} :
    ∀ {list : List MailoutAccount},
      (∀ account ∈ list, r.collectAccount gw account = r'.collectAccount gw account) →
      r.collectAccounts gw list = r'.collectAccounts gw list
  | [], _ => rfl
  | account :: list, h => by
    have ih := collectAccounts_congr fun a ha => h a (List.mem_cons_of_mem account ha)
    rw [Reconciler.collectAccounts, Reconciler.collectAccounts, h account List.mem_cons_self, ih]

/-- An account gives what its Secret says. -/
theorem collectAccount_reading {gw : MailoutGateway Selector} {account : MailoutAccount}
    (h : secrets account.secretKey = secrets' account.secretKey) :
    (reading world accounts secrets).reconciler.collectAccount gw account =
      (reading world accounts' secrets').reconciler.collectAccount gw account := by
  have hsecret : (reading world accounts secrets).reconciler.getSecret account.namespace_
      account.secretRefName = (reading world accounts' secrets').reconciler.getSecret account.namespace_
      account.secretRefName := by
    have hkey : secrets ⟨account.namespace_, account.secretRefName⟩ =
        secrets' ⟨account.namespace_, account.secretRefName⟩ := h
    simp only [Cluster.reconciler, reading, hkey]
  have hclient : (reading world accounts secrets).reconciler.toClient =
      (reading world accounts' secrets').reconciler.toClient := rfl
  have hrefers : (reading world accounts secrets).reconciler.refersTo gw account =
      (reading world accounts' secrets').reconciler.refersTo gw account := rfl
  simp only [Reconciler.collectAccount, hsecret, hclient, hrefers]

/-- The accounts that are collected are those the watch puts the gateway into the queue for, whatever the
accounts and Secrets of the cluster. -/
theorem refersTo_reading :
    (reading world accounts secrets).reconciler.refersTo gw.toMailoutGateway = refers world gw.key := by
  funext account
  rw [Bool.eq_iff_iff, refersTo_iff, refers, decide_eq_true_iff]
  rfl

/-- The accounts of the gateway and their Secrets are all that counts. -/
theorem collect_reading (haccounts : accounts.filter (refers world gw.key) =
      accounts'.filter (refers world gw.key))
    (hsecrets : ∀ account ∈ accounts, refers world gw.key account = true →
      secrets account.secretKey = secrets' account.secretKey) :
    (reading world accounts secrets).collect gw = (reading world accounts' secrets').collect gw := by
  have hfilter := @collectAccounts_filter _ (reading world accounts secrets).reconciler
    gw.toMailoutGateway accounts
  have hfilter' := @collectAccounts_filter _ (reading world accounts' secrets').reconciler
    gw.toMailoutGateway accounts'
  rw [refersTo_reading] at hfilter hfilter'
  show (reading world accounts secrets).reconciler.collectAccounts gw.toMailoutGateway accounts =
    (reading world accounts' secrets').reconciler.collectAccounts gw.toMailoutGateway accounts'
  rw [← hfilter, ← hfilter', ← haccounts]
  refine collectAccounts_congr fun account haccount => ?_
  obtain ⟨hmem, hrefers⟩ := List.mem_filter.mp haccount
  exact collectAccount_reading (hsecrets account hmem hrefers)

/-- With the same entries collected, a reconciliation is the same: it reads neither the accounts nor their
Secrets for anything else. -/
theorem run_reading {calls : GatewayCalls} {prev : Option ConfigSecretObject}
    (hcollect : (reading world accounts secrets).collect gw =
      (reading world accounts' secrets').collect gw) :
    (GatewayReconcile calls (reading world accounts secrets)).run ⟨some gw, prev⟩ =
      (GatewayReconcile calls (reading world accounts' secrets')).run ⟨some gw, prev⟩ := by
  have hplan : (reading world accounts secrets).plan calls gw prev =
      (reading world accounts' secrets').plan calls gw prev := by
    have hnamespace : (reading world accounts secrets).operatorNamespace =
        (reading world accounts' secrets').operatorNamespace := rfl
    have hquote : (reading world accounts secrets).quote = (reading world accounts' secrets').quote := rfl
    simp only [Cluster.plan, hcollect, hnamespace, hquote]
  rw [GatewayReconcile, Comp.run_bind_of_ok (Comp.run_get _), GatewayReconcile,
    Comp.run_bind_of_ok (Comp.run_get _)]
  cases calls.getGateway with
  | some err => rfl
  | none => simp only [hplan]

/-- A reconciliation that had the accounts of the gateway and their Secrets is one that had everything. -/
theorem relist {cache : Objects Selector g} {gw : { gw : GatewayResource Selector // gw.key = g }}
    {calls : GatewayCalls} {prev : Option ConfigSecretObject}
    {res : Except Bytes GatewayResult × GatewayStored Selector} (hnodup : accounts.Nodup)
    (hlisted : ∀ account, refers world g account = true →
      (account ∈ accounts ↔ account ∈ cache.accounts))
    (hsecrets : ∀ account ∈ accounts, refers world g account = true →
      secrets account.secretKey = cache.cached account.secretKey)
    (hrun : (GatewayReconcile calls (reading world accounts secrets)).run ⟨some gw.1, prev⟩ = res) :
    ∃ list, list.Nodup ∧ list.toFinset = cache.accounts ∧
      (GatewayReconcile calls (reading world list cache.cached)).run ⟨some gw.1, prev⟩ = res := by
  -- those of other gateways come behind, in any order
  let others := (cache.accounts.filter fun account => refers world g account = false).toList
  have hothers : ∀ account ∈ others, refers world g account = false := by
    intro account hmem
    exact (Finset.mem_filter.mp (Finset.mem_toList.mp hmem)).2
  refine ⟨accounts.filter (refers world g) ++ others, ?_, ?_, ?_⟩
  · refine (hnodup.filter _).append (Finset.nodup_toList _) fun account hmine hother => ?_
    have hrefers := hothers account hother
    rw [(List.mem_filter.mp hmine).2] at hrefers
    cases hrefers
  · ext account
    simp only [List.mem_toFinset, List.mem_append, List.mem_filter, others, Finset.mem_toList,
      Finset.mem_filter]
    cases hrefers : refers world g account with
    | true => simp [hlisted account hrefers]
    | false => simp
  · obtain ⟨gw, rfl⟩ := gw
    refine (run_reading (collect_reading ?_ ?_)).trans hrun
    · have hnone : others.filter (refers world gw.key) = [] :=
        List.filter_eq_nil_iff.mpr fun account hmem => by simp [hothers account hmem]
      rw [List.filter_append, List.filter_filter, hnone, List.append_nil]
      simp
    · intro account hmem hrefers
      refine (hsecrets account ?_ hrefers).symm
      rcases List.mem_append.mp hmem with hmem | hmem
      · exact (List.mem_filter.mp hmem).1
      · rw [hothers account hmem] at hrefers
        cases hrefers

end

/-! ## What is noticed -/

section
variable (world : Cluster Selector)

/-- An account of the gateway names the Secret. -/
def Named (o : Objects Selector g) (key : ObjectKey) : Prop :=
  ∃ account ∈ o.accounts, refers world g account = true ∧ account.secretKey = key

/-- The Secret carries the label of the gateway, if it is one the cache has. -/
def Marked (o : Objects Selector g) (key : ObjectKey) : Prop :=
  ∀ secret ∈ o.cached key, labelled world g secret = true

/-- The Secrets of which a change is noticed. -/
def Noticed (o : Objects Selector g) (key : ObjectKey) : Prop := Named world o key ∧ Marked world o key

instance Named.decidable (o : Objects Selector g) (key : ObjectKey) : Decidable (Named world o key) :=
  inferInstanceAs (Decidable (∃ account ∈ o.accounts, _))

instance Marked.decidable (o : Objects Selector g) (key : ObjectKey) : Decidable (Marked world o key) :=
  inferInstanceAs (Decidable (∀ secret ∈ o.cached key, _))

/-- A Secret that an account of the gateway names does not leave the cache without the label of the gateway,
and a configuration Secret that is changed has the label of the cache, or had it. -/
def Tidy (o : Objects Selector g) : ObjectChange Selector g → Prop
  | .secret key new => cachedSecret new = none → Named world o key → Marked world o key
  | .config new => enqueues world o (.config new) = true
  | _ => True

instance Tidy.decidable (o : Objects Selector g) : (e : ObjectChange Selector g) → Decidable (Tidy world o e)
  | .secret .. => inferInstanceAs (Decidable (_ → _))
  | .config _ => inferInstanceAs (Decidable (_ = true))
  | .gateway _ | .account .. => isTrue trivial

/-- The changes that arrive are tidy. -/
def Orderly (o : Operator Selector g) : Label Selector g → Prop
  | .deliver n => ∀ e ∈ o.objects.pending[n]?, Tidy world o.objects.cache e
  | _ => True

instance Orderly.decidable (o : Operator Selector g) : (l : Label Selector g) → Decidable (Orderly world o l)
  | .deliver n => inferInstanceAs (Decidable (∀ e ∈ o.objects.pending[n]?, _))
  | .write _ | .skip _ | .resync | .take | .list _ | .read | .fail | .finish _ => isTrue trivial

/-- A change that the gateway does not depend on, or that is not noticed. -/
structure Quiet (o o' : Objects Selector g) : Prop where
  gateway : o'.gateway = o.gateway
  accounts : ∀ account, refers world g account = true → (account ∈ o'.accounts ↔ account ∈ o.accounts)
  secrets : ∀ key, Noticed world o' key → Noticed world o key ∧ o'.cached key = o.cached key

variable {world} {o o' : Objects Selector g}

/-- With the same accounts of the gateway, the same Secrets are named. -/
theorem named_congr (h : ∀ account, refers world g account = true →
    (account ∈ o'.accounts ↔ account ∈ o.accounts)) {key : ObjectKey} :
    Named world o' key ↔ Named world o key := by
  constructor
  · rintro ⟨account, hmem, hrefers, hkey⟩
    exact ⟨account, (h account hrefers).mp hmem, hrefers, hkey⟩
  · rintro ⟨account, hmem, hrefers, hkey⟩
    exact ⟨account, (h account hrefers).mpr hmem, hrefers, hkey⟩

/-- A Secret that is marked, though nothing in the cache is for it, is not in the cache. -/
theorem Marked.eq_none {key : ObjectKey} (h : Marked world o key)
    (hunmarked : ∀ secret ∈ o.cached key, ¬ labelled world g secret = true) : o.cached key = none :=
  Option.eq_none_iff_forall_not_mem.mpr fun secret hsecret => hunmarked secret hsecret (h secret hsecret)

/-- What does not put the gateway into the queue is quiet. -/
theorem quiet_of_not_enqueues {e : ObjectChange Selector g} (h : enqueues world o e = false)
    (htidy : Tidy world o e) : Quiet world o (o.apply e) := by
  cases e with
  | gateway new => cases h
  | config new => cases h.symm.trans htidy
  | account key new =>
    simp only [enqueues, decide_eq_false_iff_not, not_or, not_exists, not_and] at h
    obtain ⟨hold, hnew⟩ := h
    have haccounts : ∀ account, refers world g account = true →
        (account ∈ (o.apply (.account key new)).accounts ↔ account ∈ o.accounts) := by
      intro account hrefers
      show account ∈ replaceAccount o.accounts key new ↔ _
      rw [mem_replaceAccount]
      constructor
      · rintro (⟨hmem, -⟩ | hmem)
        · exact hmem
        · obtain ⟨a, ha, rfl⟩ := Option.map_eq_some_iff.mp hmem
          exact absurd hrefers (hnew a ha)
      · exact fun hmem => .inl ⟨hmem, fun hkey => hold account hmem hkey hrefers⟩
    exact ⟨rfl, haccounts, fun k hk => ⟨⟨(named_congr haccounts).mp hk.1, hk.2⟩, rfl⟩⟩
  | secret key new =>
    simp only [enqueues, decide_eq_false_iff_not, not_or, not_exists, not_and] at h
    obtain ⟨hold, hnew⟩ := h
    refine ⟨rfl, fun _ _ => Iff.rfl, fun k hk => ?_⟩
    by_cases heq : k = key
    · subst heq
      have hcached : (o.apply (.secret k new)).cached k = cachedSecret new :=
        congrArg cachedSecret (Function.update_self ..)
      -- marked now and before, and not reported: it was not in the cache, and is not now
      have hgone : (o.apply (.secret k new)).cached k = none :=
        hk.2.eq_none fun secret hsecret => hnew secret (hcached ▸ hsecret)
      have hmarked : Marked world o k := htidy (hcached ▸ hgone) hk.1
      exact ⟨⟨hk.1, hmarked⟩, hgone.trans (hmarked.eq_none hold).symm⟩
    · have hsame : (o.apply (.secret key new)).cached k = o.cached k :=
        congrArg cachedSecret (Function.update_of_ne heq ..)
      exact ⟨⟨hk.1, fun secret hsecret => hk.2 secret (hsame ▸ hsecret)⟩, hsame⟩

end

/-! ## What the controller knows -/

section
variable (world : Cluster Selector) (last : Option (GatewayCalls × Option ConfigSecretObject))

/-- The configuration Secret is what the last reconciliation leaves of what is in the cache, if all that it
depends on is noticed. -/
def Settled (o : Operator Selector g) : Prop :=
  (∀ account ∈ o.objects.cache.accounts, refers world g account = true →
    Marked world o.objects.cache account.secretKey) →
  ∀ gw ∈ o.objects.cache.gateway, ∃ accounts calls prev res after, last = some (calls, prev) ∧
    accounts.Nodup ∧ accounts.toFinset = o.objects.cache.accounts ∧
    (GatewayReconcile calls (reading world accounts o.objects.cache.cached)).run ⟨some gw.1, prev⟩ =
      (.ok res, ⟨after, o.objects.source.config⟩)

/-- Somebody changed the configuration Secret. -/
def Touched (o : Operator Selector g) : Prop := ∃ new, .config new ∈ o.objects.pending

/-- What was read before the Secrets is what is in the cache. -/
structure Collects (o : Operator Selector g) (gw : { gw : GatewayResource Selector // gw.key = g })
    (accounts : List MailoutAccount) (todo : List ObjectKey)
    (seen : List (ObjectKey × Option SecretObject)) : Prop where
  gateway : o.objects.cache.gateway = some gw
  nodup : accounts.Nodup
  listed : ∀ account, refers world g account = true →
    (account ∈ accounts ↔ account ∈ o.objects.cache.accounts)
  covered : ∀ account ∈ accounts, refers world g account = true →
    account.secretKey ∈ todo ∨ account.secretKey ∈ seen.map Prod.fst

/-- What the controller knows, wherever it is with the gateway: what it has read is what is in the cache, or
the gateway is queued. -/
def Informed (o : Operator Selector g) : Activity Selector g → Prop
  | .idle => o.queued = true ∨ o.Touched ∨ o.Settled world last
  | .started gw => o.queued = true ∨ o.objects.cache.gateway = some gw
  | .collecting gw accounts todo seen =>
    (o.queued = true ∨ o.Collects world gw accounts todo seen) ∧
      Tracks (o.queued = true) o.objects.cache.cached (Noticed world o.objects.cache) seen

/-- The invariant of the controller, with the last of its reconciliations. -/
structure Sound (o : Operator Selector g) : Prop where
  coherent : o.objects.Coherent (objectFeed Selector g)
  informed : o.Informed world last o.activity

variable {world last} {o o' : Operator Selector g}

/-- With the objects a reconciliation depends on, what it leaves stays the same. -/
theorem Settled.quiet (h : o.Settled world last) (hquiet : Quiet world o.objects.cache o'.objects.cache)
    (hconfig : o'.objects.source.config = o.objects.source.config) : o'.Settled world last := by
  intro hmarked gw hgw
  have hnoticed : ∀ account ∈ o.objects.cache.accounts, refers world g account = true →
      Noticed world o.objects.cache account.secretKey ∧
        o'.objects.cache.cached account.secretKey = o.objects.cache.cached account.secretKey := by
    intro account hmem hrefers
    have hmem' := (hquiet.accounts account hrefers).mpr hmem
    exact hquiet.secrets _ ⟨⟨account, hmem', hrefers, rfl⟩, hmarked account hmem' hrefers⟩
  obtain ⟨accounts, calls, prev, res, after, hlast, hnodup, hall, hrun⟩ :=
    h (fun account hmem hrefers => (hnoticed account hmem hrefers).1.2) gw (hquiet.gateway ▸ hgw)
  have hmem : ∀ account, account ∈ accounts ↔ account ∈ o.objects.cache.accounts := by
    intro account
    rw [← hall, List.mem_toFinset]
  obtain ⟨list, hlist, hlisted, hrun'⟩ := relist hnodup
    (fun account hrefers => (hmem account).trans (hquiet.accounts account hrefers).symm)
    (fun account ha hrefers => (hnoticed account ((hmem account).mp ha) hrefers).2.symm) hrun
  exact ⟨list, calls, prev, res, after, hlast, hlist, hlisted, by rw [hrun', hconfig]⟩

/-- What was read is still what is in the cache after a quiet change. -/
theorem Collects.quiet {gw : { gw : GatewayResource Selector // gw.key = g }}
    {accounts : List MailoutAccount} {todo : List ObjectKey}
    {seen : List (ObjectKey × Option SecretObject)} (h : o.Collects world gw accounts todo seen)
    (hquiet : Quiet world o.objects.cache o'.objects.cache) : o'.Collects world gw accounts todo seen where
  gateway := hquiet.gateway.trans h.gateway
  nodup := h.nodup
  listed := fun account hrefers => (h.listed account hrefers).trans (hquiet.accounts account hrefers).symm
  covered := h.covered

/-- No change is a quiet one. -/
theorem Quiet.refl (cache : Objects Selector g) : Quiet world cache cache :=
  ⟨rfl, fun _ _ => Iff.rfl, fun _ h => ⟨h, rfl⟩⟩

/-- With the gateway queued there is nothing the controller has to know: it will start over. -/
theorem informed_of_queued (h : o.queued = true) : o.Informed world last o.activity := by
  cases o.activity with
  | idle => exact .inl h
  | started gw => exact .inl h
  | collecting gw accounts todo seen => exact ⟨.inl h, .inl h⟩

/-- The controller knows as much as before when objects change or a change arrives: one that matters puts
the gateway into the queue. -/
theorem Informed.objects (h : o.Informed world last o.activity) (hactivity : o'.activity = o.activity)
    (hkeep : o.queued = true → o'.queued = true) (htouched : o.Touched → o'.queued = true ∨ o'.Touched)
    (hconfig : o'.Touched ∨ o'.objects.source.config = o.objects.source.config)
    (hquiet : o'.queued = true ∨ Quiet world o.objects.cache o'.objects.cache) :
    o'.Informed world last o'.activity := by
  rw [hactivity]
  cases hact : o.activity with
  | idle =>
    rw [hact] at h
    rcases h with hqueued | htouch | hsettled
    · exact .inl (hkeep hqueued)
    · exact (htouched htouch).imp id .inl
    · exact hquiet.imp id fun hq => hconfig.imp id fun hc => hsettled.quiet hq hc
  | started gw =>
    rw [hact] at h
    rcases h with hqueued | hgateway
    · exact .inl (hkeep hqueued)
    · exact hquiet.imp id fun hq => hq.gateway.trans hgateway
  | collecting gw accounts todo seen =>
    rw [hact] at h
    obtain ⟨hcollects, htracks⟩ := h
    constructor
    · rcases hcollects with hqueued | hcollects
      · exact .inl (hkeep hqueued)
      · exact hquiet.imp id hcollects.quiet
    · exact htracks.change hkeep fun key hkey => hquiet.imp id fun hq => hq.secrets key hkey

/-- Somebody changes an object: the cache is as before, and a change of the configuration Secret is now under
way. -/
theorem Sound.write (h : o.Sound world last) (e : ObjectChange Selector g)
    (hstep : step world o (.write e) = some o') : o'.Sound world last := by
  cases hstep
  refine ⟨h.coherent.write e, h.informed.objects rfl id ?_ ?_ (.inr (.refl _))⟩
  · rintro ⟨new, hmem⟩
    exact .inr ⟨new, List.mem_append_left _ hmem⟩
  · cases e with
    | config new => exact .inl ⟨new, List.mem_append_right _ (List.mem_singleton.mpr rfl)⟩
    | gateway | account | secret => exact .inr rfl

/-- A change of the configuration Secret is under way until it arrives. -/
theorem touched_eraseIdx {n : Nat} {e : ObjectChange Selector g} {pending : List (ObjectChange Selector g)}
    (hget : pending[n]? = some e) (hother : ∀ new, e ≠ .config new)
    (h : ∃ new, .config new ∈ pending) : ∃ new, .config new ∈ pending.eraseIdx n := by
  obtain ⟨new, hmem⟩ := h
  obtain ⟨k, hk⟩ := List.mem_iff_getElem?.mp hmem
  refine ⟨new, List.mem_eraseIdx_iff_getElem?.mpr ⟨k, ?_, hk⟩⟩
  rintro rfl
  exact hother new (Option.some.inj (hget.symm.trans hk))

/-- A change arrives. If it is not quiet, it puts the gateway into the queue. -/
theorem Sound.deliver (h : o.Sound world last) {n : Nat} (horderly : Orderly world o (.deliver n))
    (hstep : step world o (.deliver n) = some o') : o'.Sound world last := by
  obtain ⟨⟨e, objects⟩, hdeliver, rfl⟩ := Option.map_eq_some_iff.mp hstep
  refine ⟨h.coherent.deliver hdeliver, ?_⟩
  have hcases := Informer.deliver_eq_some hdeliver
  obtain ⟨rfl, hget, -⟩ := hcases
  refine h.informed.objects rfl (fun hq => by simp [hq]) (fun htouched => ?_) (.inr rfl) ?_
  · cases e with
    | config new =>
      have hseen : enqueues world o.objects.cache (.config new) = true := horderly _ hget
      exact .inl (by simp [hseen])
    | gateway | account | secret => exact .inr (touched_eraseIdx hget (by simp) htouched)
  · cases henqueues : enqueues world o.objects.cache e with
    | true => exact .inl (by simp)
    | false => exact .inr (quiet_of_not_enqueues henqueues (horderly e hget))

/-- A change is never told. If it was one of the configuration Secret, the one that overtook it still is. -/
theorem Sound.skip (h : o.Sound world last) {n : Nat} (hstep : step world o (.skip n) = some o') :
    o'.Sound world last := by
  obtain ⟨objects, hskip, rfl⟩ := Option.map_eq_some_iff.mp hstep
  refine ⟨h.coherent.skip hskip, ?_⟩
  obtain ⟨e, hget, ⟨e', hlater, hsame⟩, rfl⟩ := Informer.skip_eq_some hskip
  refine h.informed.objects rfl id (fun htouched => .inr ?_) (.inr rfl) (.inr (.refl _))
  cases e with
  | config new =>
    cases e' with
    | config new' =>
      refine ⟨new', ?_⟩
      show _ ∈ o.objects.pending.eraseIdx n
      rw [List.eraseIdx_eq_take_drop_succ]
      exact List.mem_append_right _ hlater
    | gateway | account | secret => cases hsame
  | gateway | account | secret => exact touched_eraseIdx hget (by simp) htouched

/-- The resync puts the gateway into the queue. -/
theorem Sound.resync (h : o.Sound world last) (hstep : step world o .resync = some o') : o'.Sound world last := by
  rw [step] at hstep
  split_ifs at hstep
  cases hstep
  exact ⟨h.coherent, informed_of_queued rfl⟩

/-- A reconciliation that could not read something is repeated. -/
theorem Sound.fail (h : o.Sound world last) (hstep : step world o .fail = some o') : o'.Sound world last := by
  rw [step] at hstep
  split at hstep
  · cases hstep
  · cases hstep
    exact ⟨h.coherent, .inl rfl⟩

/-- Without a gateway there is nothing to do. -/
theorem settled_of_none (h : o.objects.cache.gateway = none) : o.Settled world last := by
  intro _ gw hgw
  rw [h] at hgw
  cases hgw

/-- A reconciliation begins with the gateway that is in the cache, and ends at once if there is none. -/
theorem Sound.take (h : o.Sound world last) (hstep : step world o .take = some o') : o'.Sound world last := by
  rw [step] at hstep
  split at hstep
  · cases hstep
    refine ⟨h.coherent, ?_⟩
    cases hgateway : o.objects.cache.gateway with
    | none => exact .inr (.inr (settled_of_none hgateway))
    | some gw => exact .inr hgateway
  · cases hstep

/-- The list of the accounts is that of the cache, and the Secrets are still to be read. -/
theorem Sound.list (h : o.Sound world last) {accounts : List MailoutAccount}
    (hstep : step world o (.list accounts) = some o') : o'.Sound world last := by
  rw [step] at hstep
  split at hstep
  · rename_i gw hact
    split_ifs at hstep with hlist
    cases hstep
    have hinformed := h.informed
    rw [hact] at hinformed
    refine ⟨h.coherent, hinformed.imp id fun hgateway => ⟨hgateway, hlist.1, ?_, ?_⟩, .start⟩
    · intro account _
      rw [← hlist.2, List.mem_toFinset]
    · intro account hmem hrefers
      exact .inl (List.mem_map_of_mem (List.mem_filter.mpr ⟨hmem, hrefers⟩))
  · cases hstep

/-- One more Secret is read, as it is in the cache. -/
theorem Sound.read (h : o.Sound world last) (hstep : step world o .read = some o') : o'.Sound world last := by
  rw [step] at hstep
  split at hstep
  · rename_i gw accounts key todo seen hact
    cases hstep
    have hinformed := h.informed
    rw [hact] at hinformed
    refine ⟨h.coherent, hinformed.1.imp id fun hcollects => ?_, hinformed.2.read key⟩
    refine ⟨hcollects.gateway, hcollects.nodup, hcollects.listed, fun account hmem hrefers => ?_⟩
    rcases hcollects.covered account hmem hrefers with hkey | hkey
    · rcases List.mem_cons.mp hkey with hkey | hkey
      · exact .inr (by simp [hkey])
      · exact .inl hkey
    · exact .inr (List.mem_cons_of_mem _ hkey)
  · cases hstep

/-- A write does not get into the cache by itself. -/
theorem cache_stored (objects : Informer (Objects Selector g) (ObjectChange Selector g))
    (config : Option ConfigSecretObject) : (stored objects config).cache = objects.cache := by
  unfold stored
  split_ifs <;> rfl

/-- The configuration Secret is what was written, also where the write was none. -/
theorem config_stored (objects : Informer (Objects Selector g) (ObjectChange Selector g))
    (config : Option ConfigSecretObject) : (stored objects config).source.config = config := by
  unfold stored
  split_ifs with h
  · exact h
  · rfl

/-- What the controller writes is under way like any other change. -/
theorem Coherent.stored {objects : Informer (Objects Selector g) (ObjectChange Selector g)}
    (h : objects.Coherent (objectFeed Selector g)) (config : Option ConfigSecretObject) :
    (stored objects config).Coherent (objectFeed Selector g) := by
  unfold Operator.stored
  split_ifs
  · exact h
  · exact h.write _

/-- A status patch does not get into the cache by itself. -/
theorem cache_patched (objects : Informer (Objects Selector g) (ObjectChange Selector g))
    (status : Option GatewayStatus) : (patched objects status).cache = objects.cache := by
  unfold patched
  split
  · split_ifs <;> rfl
  · rfl

/-- A status patch is of the gateway alone. -/
theorem config_patched (objects : Informer (Objects Selector g) (ObjectChange Selector g))
    (status : Option GatewayStatus) :
    (patched objects status).source.config = objects.source.config := by
  unfold patched
  split
  · split_ifs <;> rfl
  · rfl

/-- A status patch is under way like any other change. -/
theorem Coherent.patched {objects : Informer (Objects Selector g) (ObjectChange Selector g)}
    (h : objects.Coherent (objectFeed Selector g)) (status : Option GatewayStatus) :
    (patched objects status).Coherent (objectFeed Selector g) := by
  unfold Operator.patched
  split
  · split_ifs
    · exact h
    · exact h.write _
  · exact h

/-- What was read of a Secret is what is in the cache. -/
theorem asSecrets_eq {env : ObjectKey → Option SecretObject} {watched : ObjectKey → Prop}
    {seen : List (ObjectKey × Option SecretObject)} (h : Current env watched seen) {key : ObjectKey}
    (hseen : key ∈ seen.map Prod.fst) (hwatched : watched key) : asSecrets seen key = env key := by
  obtain ⟨v, hv⟩ : ∃ v, seen.lookup key = some v := by
    rw [← Option.isSome_iff_exists, List.lookup_isSome_iff]
    obtain ⟨p, hp, rfl⟩ := List.mem_map.mp hseen
    exact ⟨p, hp, beq_self_eq_true _⟩
  have hmem : (key, v) ∈ seen := by
    obtain ⟨l, r, rfl, -⟩ := List.lookup_eq_some_iff.mp hv
    simp
  rw [asSecrets, hv]
  exact h (key, v) hmem hwatched

/-- What the controller has read is what is in the cache, so that what it leaves is what a
reconciliation of that leaves. -/
theorem Collects.settled {gw : { gw : GatewayResource Selector // gw.key = g }}
    {accounts : List MailoutAccount} {seen : List (ObjectKey × Option SecretObject)}
    {calls : GatewayCalls} {prev config : Option ConfigSecretObject}
    {after : Option (GatewayResource Selector)} {res : GatewayResult}
    (h : o.Collects world gw accounts [] seen)
    (hcurrent : Current o.objects.cache.cached (Noticed world o.objects.cache) seen)
    (hrun : (GatewayReconcile calls (reading world accounts (asSecrets seen))).run ⟨some gw.1, prev⟩ =
      (.ok res, ⟨after, config⟩))
    (hcache : o'.objects.cache = o.objects.cache) (hconfig : o'.objects.source.config = config) :
    o'.Settled world (some (calls, prev)) := by
  intro hmarked gw' hgw'
  rw [hcache] at hmarked hgw'
  obtain rfl : gw = gw' := Option.some.inj (h.gateway.symm.trans hgw')
  have hsecrets : ∀ account ∈ accounts, refers world g account = true →
      asSecrets seen account.secretKey = o.objects.cache.cached account.secretKey := by
    intro account hmem hrefers
    have hmem' := (h.listed account hrefers).mp hmem
    have hseen := (h.covered account hmem hrefers).resolve_left List.not_mem_nil
    exact asSecrets_eq hcurrent hseen ⟨⟨account, hmem', hrefers, rfl⟩, hmarked account hmem' hrefers⟩
  obtain ⟨list, hnodup, hall, hlist⟩ := relist h.nodup h.listed hsecrets hrun
  exact ⟨list, calls, prev, res, after, rfl, hnodup, by rw [hcache, hall], by rw [hcache, hconfig, hlist]⟩

/-- A reconciliation ends. With an error the gateway is queued again; else nothing noticed has changed since
it was read, or the gateway is queued for it. -/
theorem Sound.finish (h : o.Sound world last) {calls : GatewayCalls}
    (hstep : step world o (.finish calls) = some o') :
    o'.Sound world (some (calls, o.objects.source.config)) := by
  rw [step] at hstep
  split at hstep
  · rename_i gw accounts seen hact
    cases hstep
    have hinformed := h.informed
    rw [hact] at hinformed
    obtain ⟨hcollects, htracks⟩ := hinformed
    refine ⟨Coherent.patched (Coherent.stored h.coherent _) _, ?_⟩
    cases hrun : (GatewayReconcile calls (reading world accounts (asSecrets seen))).run
        ⟨some gw.1, o.objects.source.config⟩ with
    | mk res after =>
      cases res with
      | error err => exact .inl (by simp [Except.isOk, Except.toBool])
      | ok res =>
        rcases hcollects with hqueued | hcollects
        · exact .inl (by simp [hqueued])
        · rcases htracks with hqueued | hcurrent
          · exact .inl (by simp [hqueued])
          · refine .inr (.inr (hcollects.settled hcurrent hrun ?_ ?_))
            · rw [cache_patched, cache_stored]
            · rw [config_patched, config_stored]
  · cases hstep

/-- Every step keeps the invariant. -/
theorem Sound.step {l : Label Selector g} (h : o.Sound world last) (horderly : Orderly world o l)
    (hstep : step world o l = some o') : o'.Sound world ((round o l).or last) := by
  cases l with
  | write e => exact h.write e hstep
  | deliver n => exact h.deliver horderly hstep
  | skip n => exact h.skip hstep
  | resync => exact h.resync hstep
  | take => exact h.take hstep
  | list accounts => exact h.list hstep
  | read => exact h.read hstep
  | fail => exact h.fail hstep
  | finish calls => exact h.finish hstep

/-- The invariant holds at the start, where every gateway is queued. -/
theorem sound_start (objects : Objects Selector g) : (start objects).Sound world none :=
  ⟨Informer.coherent_synced objects, .inl rfl⟩

/-- Nothing is under way, and the gateway is neither queued nor worked on. -/
structure AtRest (o : Operator Selector g) : Prop where
  idle : o.activity = .idle
  unqueued : o.queued = false
  synced : o.objects.pending = []

/-- Every run keeps the invariant, if what arrives is tidy. -/
theorem sound_of_runs {objects : Objects Selector g} {ls : List (Label Selector g)}
    (hrun : runs (Operator.step world) (start objects) ls = some o)
    (horderly : Meets (Operator.step world) (Orderly world) (start objects) ls) :
    o.Sound world (rounds world (start objects) ls).getLast? := by
  have hlast : ∀ (past : List (Option (GatewayCalls × Option ConfigSecretObject))) note,
      (past ++ [note]).reduceOption.getLast? = note.or past.reduceOption.getLast? := by
    intro past note
    rw [List.reduceOption_append, List.reduceOption_singleton, List.getLast?_append]
    cases note <;> rfl
  have hstep : ∀ past (o : Operator Selector g) l o',
      o.Sound world past.reduceOption.getLast? → Orderly world o l → Operator.step world o l = some o' →
      o'.Sound world (past ++ [round o l]).reduceOption.getLast? := by
    intro past o l o' hsound horderly hstep
    rw [hlast]
    exact hsound.step horderly hstep
  exact log_invariant_of_meets (I := fun past o => Operator.Sound world past.reduceOption.getLast? o)
    hstep ls [] _ (sound_start objects) horderly hrun

/-- At rest the configuration Secret is what the last reconciliation leaves of the present objects. -/
theorem Sound.settled (h : o.Sound world last) (hrest : o.AtRest)
    (hmarked : ∀ account ∈ o.objects.source.accounts, refers world g account = true →
      Marked world o.objects.source account.secretKey) :
    ∀ gw ∈ o.objects.source.gateway, ∃ accounts calls prev res after, last = some (calls, prev) ∧
      accounts.Nodup ∧ accounts.toFinset = o.objects.source.accounts ∧
      (GatewayReconcile calls (reading world accounts o.objects.source.cached)).run ⟨some gw.1, prev⟩ =
        (.ok res, ⟨after, o.objects.source.config⟩) := by
  have hinformed := h.informed
  have hsynced := h.coherent.eq_of_nil hrest.synced
  rw [hrest.idle] at hinformed
  rcases hinformed with hqueued | ⟨new, hmem⟩ | hsettled
  · rw [hrest.unqueued] at hqueued
    cases hqueued
  · rw [hrest.synced] at hmem
    cases hmem
  · rw [Settled, hsynced] at hsettled
    exact hsettled hmarked

end

end Operator

/-! ## The configuration Secret -/

section
variable {calls : GatewayCalls} {c : Cluster Selector} {gw : GatewayResource Selector}

/-- To fit, a configuration loses accounts only. -/
theorem fitted_eq (calls : GatewayCalls) (cfg : DataplaneConfig) :
    ∃ accounts, accounts.Sublist cfg.accounts ∧
      (fitted calls cfg).2 = { cfg with accounts := accounts } := by
  unfold fitted FitAccounts
  cases calls.marshaller.config cfg with
  | error err => exact ⟨cfg.accounts, .refl _, rfl⟩
  | ok size =>
    dsimp only
    split_ifs
    · exact ⟨cfg.accounts, .refl _, rfl⟩
    · cases sizesFrom calls.marshaller 0 cfg.accounts with
      | error err => exact ⟨cfg.accounts, .refl _, rfl⟩
      | ok order =>
        dsimp only
        rcases @fitLoop_drops calls.marshaller cfg ConfigBudget (calls.sortBySize cfg.accounts order) []
          with hrun | ⟨_, _, _, hrun⟩
        · exact ⟨cfg.accounts, .refl _, by rw [hrun]⟩
        · rw [hrun]
          exact ⟨_, keptFrom_sublist _ _ _, rfl⟩

/-- Whoever is in the configuration is an account that was collected. -/
theorem reconcile_accounts {s s' : GatewayStored Selector} (hgw : s.gateway = some gw)
    (hrun : (GatewayReconcile calls c).run s = (.ok .reconciled, s')) :
    ∃ secret list, s'.configSecret = some secret ∧ c.listAccounts = .ok list ∧
      ∀ acct ∈ secret.config.accounts, ∃ account ∈ list,
        c.reconciler.collectAccount gw.toMailoutGateway account = .ok (some acct) := by
  obtain ⟨accounts, cfg, hplan, hpublish⟩ := reconcile_publishes hgw hrun
  obtain ⟨secret, status, hconfig, -, hsecret, -⟩ := publish_ok hpublish
  obtain ⟨hcollect, hsorted⟩ := plan_publish hplan
  obtain ⟨kept, hsub, hkept⟩ := fitted_eq calls cfg
  cases hlist : c.listAccounts with
  | error err => rw [Cluster.collect, hlist] at hcollect; cases hcollect
  | ok list =>
    rw [Cluster.collect, hlist] at hcollect
    obtain ⟨-, rfl⟩ := Reconciler.collectAccounts_eq_ok.mp hcollect
    refine ⟨secret, list, hsecret, rfl, fun acct hacct => ?_⟩
    rw [hconfig, hkept] at hacct
    have hmem := hsub.subset hacct
    rw [hsorted, (calls.sorts_username _).perm.mem_iff] at hmem
    obtain ⟨account, haccount, hentry⟩ := List.mem_filterMap.mp hmem
    exact ⟨account, haccount, Reconciler.entry_eq_some.mp hentry⟩

/-- A reconciliation of a gateway that returns no error published, or its plan was to mark the gateway as
failed, which leaves the configuration Secret alone. -/
theorem reconcile_ok_cases {s s' : GatewayStored Selector} {res : GatewayResult}
    (hgw : s.gateway = some gw) (h : (GatewayReconcile calls c).run s = (.ok res, s')) :
    res = .reconciled ∨
      (∃ reason message, c.plan calls gw s.configSecret = .markFailed reason message) ∧
        s'.configSecret = s.configSecret := by
  rw [GatewayReconcile, Comp.run_bind_of_ok (Comp.run_get s)] at h
  cases hget : calls.getGateway with
  | some err => rw [hget] at h; cases h
  | none =>
    simp only [hget, hgw] at h
    cases hplan : c.plan calls gw s.configSecret with
    | fail err => rw [hplan] at h; cases h
    | markFailed reason message =>
      refine .inr ⟨⟨reason, message, rfl⟩, ?_⟩
      rw [hplan] at h
      obtain ⟨_, s₁, hmark, hpure⟩ := Comp.run_bind_ok h
      cases hpure
      rw [patchGatewayStatus_ok hmark]
    | publish accounts cfg =>
      rw [hplan] at h
      obtain ⟨_, s₁, -, hpure⟩ := Comp.run_bind_ok h
      cases hpure
      exact .inl rfl

end

open Operator in
/-- **The configuration Secret follows the objects.** Whatever is changed, in whatever order the changes
arrive, whatever the controller reads before and after them and however its calls end: when nothing is
under way and the gateway is neither queued nor worked on, the Secret is what the last of its
reconciliations leaves of the present objects, with the Secret that it found and its calls ending as they
did. If that goes through, nobody is in it but for a present account of the gateway, with the hash that
its Secret has now; if the gateway is marked as failed, the Secret is the one that it found.

The Secrets of the accounts that the cache has must carry the label of the gateway, and must not leave the
cache without it; and nobody changes a configuration Secret that has not the label of the cache (`Orderly`).
What the controller reads past its cache may be older: the credentials of the gateway. -/
theorem operator_settles {world : Cluster Selector} {objects : Objects Selector g}
    {o : Operator Selector g} {ls : List (Label Selector g)}
    (hrun : runs (step world) (start objects) ls = some o)
    (horderly : Meets (step world) (Orderly world) (start objects) ls) (hrest : o.AtRest)
    (hmarked : ∀ account ∈ o.objects.source.accounts, refers world g account = true →
      Marked world o.objects.source account.secretKey) :
    ∀ gw ∈ o.objects.source.gateway, ∃ accounts calls prev res after,
      (rounds world (start objects) ls).getLast? = some (calls, prev) ∧
      accounts.Nodup ∧ accounts.toFinset = o.objects.source.accounts ∧
      (GatewayReconcile calls (reading world accounts o.objects.source.cached)).run ⟨some gw.1, prev⟩ =
        (.ok res, ⟨after, o.objects.source.config⟩) ∧
      (res = .reconciled → ∃ secret, o.objects.source.config = some secret ∧
        ∀ acct ∈ secret.config.accounts, ∃ account ∈ o.objects.source.accounts,
          (reading world accounts o.objects.source.cached).reconciler.collectAccount
            gw.1.toMailoutGateway account = .ok (some acct)) ∧
      (res ≠ .reconciled → o.objects.source.config = prev) := by
  intro gw hgw
  obtain ⟨accounts, calls, prev, res, after, hlast, hnodup, hall, hreconcile⟩ :=
    (sound_of_runs hrun horderly).settled hrest hmarked gw hgw
  refine ⟨accounts, calls, prev, res, after, hlast, hnodup, hall, hreconcile, ?_, fun hres => ?_⟩
  · rintro rfl
    obtain ⟨secret, list, hsecret, hlist, hentries⟩ := reconcile_accounts rfl hreconcile
    obtain rfl : accounts = list := Except.ok.inj hlist
    refine ⟨secret, hsecret, fun acct hacct => ?_⟩
    obtain ⟨account, haccount, hentry⟩ := hentries acct hacct
    exact ⟨account, hall ▸ List.mem_toFinset.mpr haccount, hentry⟩
  · exact ((reconcile_ok_cases rfl hreconcile).resolve_left hres).2

/-! ### A gateway with one account -/

/-- The key of that gateway. -/
def sharedKey : ObjectKey := ⟨lit "mailout-system", lit "gw"⟩

/-- An account that asks for one sender. -/
def senderAccount : MailoutAccount :=
  { (namedAccount (lit "app")).toMailoutAccount with allowedSenders := [lit "app@example.com"] }

/-- The gateway, its account and the account's Secret. -/
def appObjects : Objects (Bytes × Bytes) sharedKey where
  gateway := some ⟨sharedResource, by decide⟩
  accounts := {senderAccount}
  secrets := fun key =>
    if key = ⟨lit "shop", lit "smtp"⟩ then some (namedSecret (lit "app")) else none
  config := none

/-- It is reconciled, and again for what that changed. -/
def appSteps : List (Operator.Label (Bytes × Bytes) sharedKey) :=
  [.take, .list [senderAccount], .read, .finish smoothCalls, .deliver 0, .deliver 0,
    .take, .list [senderAccount], .read, .finish smoothCalls]

def Operator.Activity.isIdle : Operator.Activity Selector g → Bool
  | .idle => true
  | _ => false

/-- At rest, with every Secret marked. -/
def Operator.resting (world : Cluster Selector) (o : Operator Selector g) : Bool :=
  o.activity.isIdle && !o.queued && o.objects.pending.isEmpty &&
    decide (∀ account ∈ o.objects.source.accounts, Operator.refers world g account = true →
      Operator.Marked world o.objects.source account.secretKey)

/-- After these steps the operator is at rest with the gateway there, and all that arrived was tidy. -/
theorem appSteps_rest :
    (runs (Operator.step (sharedCluster .all)) (Operator.start appObjects) appSteps).any
        (fun o => o.resting (sharedCluster .all) && o.objects.source.gateway.isSome) = true ∧
      Meets (Operator.step (sharedCluster .all)) (Operator.Orderly (sharedCluster .all))
        (Operator.start appObjects) appSteps := by
  decide +kernel

/-- The check says that the operator is at rest and that its Secrets are marked. -/
theorem Operator.of_resting {world : Cluster Selector} {o : Operator Selector g}
    (h : o.resting world = true) : o.AtRest ∧ ∀ account ∈ o.objects.source.accounts,
      Operator.refers world g account = true → Operator.Marked world o.objects.source account.secretKey := by
  simp only [resting, Bool.and_eq_true, Bool.not_eq_true', List.isEmpty_iff, decide_eq_true_iff] at h
  obtain ⟨⟨⟨hidle, hqueued⟩, hpending⟩, hmarked⟩ := h
  refine ⟨⟨?_, hqueued, hpending⟩, hmarked⟩
  cases hact : o.activity with
  | idle => rfl
  | started | collecting => rw [hact] at hidle; cases hidle

open Operator in
/-- For the gateway with one account, whose reconciliations go through. -/
theorem operator_settles_app : ∃ o, runs (step (sharedCluster .all)) (start appObjects) appSteps = some o ∧
    o.AtRest ∧ ∃ gw ∈ o.objects.source.gateway, ∃ accounts calls prev res after,
      (rounds (sharedCluster .all) (start appObjects) appSteps).getLast? = some (calls, prev) ∧
      accounts.toFinset = o.objects.source.accounts ∧
      (GatewayReconcile calls (reading (sharedCluster .all) accounts o.objects.source.cached)).run
        ⟨some gw.1, prev⟩ = (.ok res, ⟨after, o.objects.source.config⟩) := by
  obtain ⟨o, hrun, hresting⟩ := (Option.any_eq_true _ _).mp appSteps_rest.1
  rw [Bool.and_eq_true] at hresting
  obtain ⟨hrest, hmarked⟩ := of_resting hresting.1
  obtain ⟨gw, hgw⟩ := Option.isSome_iff_exists.mp hresting.2
  obtain ⟨accounts, calls, prev, res, after, hlast, -, hall, hreconcile, -⟩ :=
    operator_settles hrun appSteps_rest.2 hrest hmarked gw hgw
  exact ⟨o, hrun, hrest, gw, hgw, accounts, calls, prev, res, after, hlast, hall, hreconcile⟩

end Mailout
